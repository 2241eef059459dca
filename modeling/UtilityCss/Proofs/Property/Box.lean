import UtilityCss.Proofs.Css.Box
import UtilityCss.Proofs.Property.Count

namespace UtilityCss
open Text Css

namespace Css

inductive Side
  | top
  | right
  | bottom
  | left
deriving DecidableEq, Repr

def Side.all : List Side := [top, right, bottom, left]

def Side.name : Side → String
  | top => "top"
  | right => "right"
  | bottom => "bottom"
  | left => "left"

def Side.initial : Side → String
  | top => "t"
  | right => "r"
  | bottom => "b"
  | left => "l"

def Sides.at (sides : Sides) : Side → String
  | .top => sides.top
  | .right => sides.right
  | .bottom => sides.bottom
  | .left => sides.left

end Css

namespace Property

-- What one class of a box can be about: the whole box, one of its axes, or a single side.
inductive Direction
  | all
  | horizontal
  | vertical
  | single (side : Side)
deriving DecidableEq, Repr

namespace Direction

def covers : Direction → List Side
  | all => Side.all
  | horizontal => [.left, .right]
  | vertical => [.top, .bottom]
  | single side => [side]

def letter : Direction → String
  | all => ""
  | horizontal => "x"
  | vertical => "y"
  | single side => side.initial

end Direction

-- Margins and paddings say their direction in a letter; offsets have a word for each side.
def BoxKind.directed : BoxKind → Direction → String
  | .inset, .all => "inset"
  | .inset, .single side => side.name
  | .inset, axis => "inset-" ++ axis.letter
  | kind, direction => kind.stem ++ direction.letter

theorem BoxKind.stems_directed (kind : BoxKind) : kind.stems =
    ⟨kind.directed .all, kind.directed .horizontal, kind.directed .vertical,
      ⟨kind.directed (.single .top), kind.directed (.single .right), kind.directed (.single .bottom),
        kind.directed (.single .left)⟩⟩ := by
  cases kind <;> decide

-- Every side is covered by one part, which has the value of the side.
structure Covers (parts : List (Direction × String)) (sides : Sides) : Prop where
  once : (parts.flatMap fun part => part.1.covers).Perm Side.all
  valued : ∀ part ∈ parts, ∀ side ∈ part.1.covers, sides.at side = part.2

theorem decompose_covers (kind : BoxKind) (sides : Sides) : ∃ parts, Covers parts sides ∧
    decompose kind.stems sides = parts.map fun part => (kind.directed part.1, part.2) := by
  rw [kind.stems_directed]
  -- The case for all four sides is tried first, so each later one stands for a form that no earlier one takes.
  unfold decompose
  split
  · rename_i even
    obtain ⟨right, bottom, left⟩ := even
    have once : [Side.top, .right, .bottom, .left].Perm Side.all := by decide
    refine ⟨[(.all, sides.top)], ⟨once, ?_⟩, rfl⟩
    simp [Direction.covers, Side.all, Sides.at, ← left, ← bottom, ← right]
  · split
    · rename_i axes
      obtain ⟨down, across⟩ := axes
      have once : [Side.top, .bottom, .left, .right].Perm Side.all := by decide
      refine ⟨[(.vertical, sides.top), (.horizontal, sides.right)], ⟨once, ?_⟩, rfl⟩
      simp [Direction.covers, Sides.at, ← down, ← across]
    · split
      · rename_i across
        have once : [Side.top, .left, .right, .bottom].Perm Side.all := by decide
        refine ⟨[(.single .top, sides.top), (.horizontal, sides.right), (.single .bottom, sides.bottom)],
          ⟨once, ?_⟩, rfl⟩
        simp [Direction.covers, Sides.at, ← across]
      · have once : [Side.top, .right, .bottom, .left].Perm Side.all := by decide
        refine ⟨Side.all.map fun side => (.single side, sides.at side), ⟨once, ?_⟩, rfl⟩
        simp [Direction.covers, Side.all, Sides.at]

theorem directed_written (kind : BoxKind) (direction : Direction) : Written (kind.directed direction).toList := by
  cases kind <;> cases direction with
  | all | horizontal | vertical => decide
  | single side => cases side <;> decide

theorem Covers.value_mem {parts : List (Direction × String)} {sides : Sides} (covers : Covers parts sides)
    (part : Direction × String) (member : part ∈ parts) : part.2 ∈ sides.toList := by
  have side_mem (side : Side) : sides.at side ∈ sides.toList := by
    cases side <;> simp [Sides.at, Sides.toList]
  have some_side : ∃ side, side ∈ part.1.covers := by
    cases part.1 with
    | all => exact ⟨.top, by decide⟩
    | horizontal => exact ⟨.left, by decide⟩
    | vertical => exact ⟨.top, by decide⟩
    | single side => exact ⟨side, List.mem_singleton_self side⟩
  obtain ⟨side, covered⟩ := some_side
  rw [← covers.valued part member side covered]
  exact side_mem side

theorem read?_returns (value : String) (parted : words (canonical value) ≠ []) :
    ∃ sides, Sides.read? value = some sides := by
  apply Option.ne_none_iff_exists'.mp
  intro nothing
  exact parted ((Sides.ofValues?_eq_none_iff _).mp nothing)

theorem boxNamed_stem (kind : BoxKind) (ctx : Context) (value : String) :
    boxNamed kind.stem ctx value = .ok (box kind ctx value) := by
  cases kind <;> rfl

theorem box_covers_sides (kind : BoxKind) (ctx : Context) (value : String) (parted : words (canonical value) ≠ []) :
    ∃ sides parts, Sides.read? value = some sides ∧ Covers parts sides ∧
      boxNamed kind.stem ctx value = .ok (box kind ctx value) ∧
      (box kind ctx value).classes =
        parts.flatMap (fun part => (spacing (kind.directed part.1) ctx part.2).classes) ∧
      (box kind ctx value).warnings =
        parts.flatMap (fun part => (spacing (kind.directed part.1) ctx part.2).warnings) ∧
      ∀ part ∈ parts, (spacing (kind.directed part.1) ctx part.2).classes.length = 1 := by
  obtain ⟨sides, read⟩ := read?_returns value parted
  obtain ⟨parts, covers, decomposed⟩ := decompose_covers kind sides
  have whole : box kind ctx value = joined (parts.map fun part => spacing (kind.directed part.1) ctx part.2) := by
    simp only [box_apply, read, decomposed, List.map_map, Function.comp_def]
  refine ⟨sides, parts, read, covers, boxNamed_stem kind ctx value, ?_, ?_, ?_⟩
  · rw [whole, joined_classes, List.flatMap_map]
  · rw [whole, joined_warnings, List.flatMap_map]
  · intro part member
    have word : part.2 ∈ words (canonical value) := by
      have listed := (Sides.mem_toList_iff _ sides read part.2).mp (covers.value_mem part member)
      exact List.mem_of_mem_take listed
    exact spacing_length _ ctx part.2 (directed_written kind part.1) (isWord_of_mem_words _ _ word).written

theorem box_covers_sides_of_three :
    let ctx : Context := ⟨some { Layer.empty with spacing := ⟨[("px", "1px")]⟩ }, none, .current, false, false,
      .standard, standardScreens, false⟩
    words (canonical "0 AUTO -1px") ≠ [] ∧
      (box .inset ctx "0 AUTO -1px").classes = ["top-0", "inset-x-auto", "-bottom-px"] ∧
      ∃ sides parts, Sides.read? "0 AUTO -1px" = some sides ∧ Covers parts sides ∧
        (box .inset ctx "0 AUTO -1px").classes =
          parts.flatMap fun part => (spacing (BoxKind.directed .inset part.1) ctx part.2).classes := by
  intro ctx
  have parted : words (canonical "0 AUTO -1px") ≠ [] := by decide +kernel
  obtain ⟨sides, parts, read, covers, _, classes, _⟩ := box_covers_sides .inset ctx "0 AUTO -1px" parted
  exact ⟨parted, by decide +kernel, sides, parts, read, covers, classes⟩

end Property
end UtilityCss
