import Mathlib.Data.List.Basic
import UtilityCss.Proofs.Text.Trimmed
import UtilityCss.Text.Split

namespace UtilityCss.Text

-- No separator stands at depth 0 when the text is scanned from the given depth.
def Unbroken (brackets : Brackets) (separates : Char → Bool) : Nat → List Char → Prop
  | _, [] => True
  | depth, c :: rest =>
    ¬(separates c = true ∧ brackets.step depth c = 0) ∧
      Unbroken brackets separates (brackets.step depth c) rest

def Closed (brackets : Brackets) (separates : Char → Bool) (depth : Nat) (piece : List Char) : Prop :=
  Unbroken brackets separates depth piece ∧ brackets.depthAfter depth piece = 0

-- No separator is a bracket, so cutting at one does not change the depth.
def Neutral (brackets : Brackets) (separates : Char → Bool) : Prop :=
  ∀ depth c, separates c = true → brackets.step depth c = depth

section
variable {brackets : Brackets} {separates : Char → Bool}

instance decidableUnbroken (brackets : Brackets) (separates : Char → Bool) :
    ∀ depth cs, Decidable (Unbroken brackets separates depth cs)
  | _, [] => isTrue trivial
  | depth, c :: rest =>
    let later := decidableUnbroken brackets separates (brackets.step depth c) rest
    @instDecidableAnd _ _ inferInstance later

instance (brackets : Brackets) (separates : Char → Bool) (depth : Nat) (piece : List Char) :
    Decidable (Closed brackets separates depth piece) :=
  inferInstanceAs (Decidable (_ ∧ _))

theorem unbroken_iff (neutral : Neutral brackets separates) (depth : Nat) (cs : List Char) :
    Unbroken brackets separates depth cs ↔ ∀ front c back, cs = front ++ c :: back → separates c = true →
      brackets.depthAfter depth front ≠ 0 := by
  induction cs generalizing depth with
  | nil =>
    refine ⟨fun _ front c back shape => ?_, fun _ => trivial⟩
    exact absurd shape.symm (List.append_ne_nil_of_right_ne_nil front (List.cons_ne_nil c back))
  | cons first rest ih =>
    constructor
    · rintro ⟨within, unbroken⟩ front c back shape separator
      cases front with
      | nil =>
        cases shape
        intro outside
        have level : depth = 0 := outside
        exact within ⟨separator, by rw [neutral depth _ separator, level]⟩
      | cons other front =>
        obtain ⟨rfl, later⟩ := List.cons.inj shape
        exact (ih _).mp unbroken front c back later separator
    · intro each
      constructor
      · rintro ⟨separator, outside⟩
        rw [neutral depth _ separator] at outside
        exact each [] first rest rfl separator outside
      · rw [ih]
        intro front c back shape separator
        exact each (first :: front) c back (congrArg (List.cons first) shape) separator

theorem depthAfter_append (depth : Nat) (front back : List Char) :
    brackets.depthAfter depth (front ++ back) = brackets.depthAfter (brackets.depthAfter depth front) back :=
  List.foldl_append

theorem unbroken_append (depth : Nat) (front back : List Char) :
    Unbroken brackets separates depth (front ++ back) ↔ Unbroken brackets separates depth front ∧
      Unbroken brackets separates (brackets.depthAfter depth front) back := by
  induction front generalizing depth with
  | nil => exact (and_iff_right trivial).symm
  | cons c rest ih => exact (and_congr_right fun _ => ih _).trans and_assoc.symm

-- Characters that neither separate nor open nor close.
def Inert (brackets : Brackets) (separates : Char → Bool) (cs : List Char) : Prop :=
  ∀ c ∈ cs, separates c = false ∧ ∀ depth, brackets.step depth c = depth

theorem Inert.closed {cs : List Char} (inert : Inert brackets separates cs) (depth : Nat) :
    Unbroken brackets separates depth cs ∧ brackets.depthAfter depth cs = depth := by
  induction cs with
  | nil => exact ⟨trivial, rfl⟩
  | cons c rest ih =>
    obtain ⟨⟨kept, level⟩, later⟩ := List.forall_mem_cons.mp inert
    obtain ⟨unbroken, ends⟩ := ih later
    refine ⟨⟨fun here => ?_, ?_⟩, ?_⟩
    · rw [kept] at here
      exact Bool.false_ne_true here.1
    · rwa [level]
    · rw [← List.singleton_append, depthAfter_append]
      change brackets.depthAfter (brackets.step depth c) rest = depth
      rwa [level]

theorem unbroken_behind {front : List Char} (inert : Inert brackets separates front) (depth : Nat)
    (back : List Char) :
    Unbroken brackets separates depth (front ++ back) ↔ Unbroken brackets separates depth back := by
  obtain ⟨unbroken, ends⟩ := inert.closed depth
  rw [unbroken_append, ends]
  exact and_iff_right unbroken

theorem closed_between {front back : List Char} (before : Inert brackets separates front)
    (after : Inert brackets separates back) (depth : Nat) (piece : List Char) :
    Closed brackets separates depth (front ++ piece ++ back) ↔ Closed brackets separates depth piece := by
  unfold Closed
  rw [List.append_assoc, unbroken_behind before, depthAfter_append, (before.closed depth).2, unbroken_append,
    depthAfter_append, (after.closed _).2]
  simp only [(after.closed _).1, and_true]

theorem split_cons_exists (brackets : Brackets) (separates : Char → Bool) (depth : Nat) (cs : List Char) :
    ∃ first rest, splitOutside brackets separates depth cs = first :: rest :=
  List.exists_cons_of_ne_nil (splitOutside_ne_nil brackets separates depth cs)

theorem split_at_separator (depth : Nat) (c : Char) (rest : List Char) (separator : separates c = true)
    (outside : brackets.step depth c = 0) :
    splitOutside brackets separates depth (c :: rest) = [] :: splitOutside brackets separates 0 rest := by
  simp [splitOutside, separator, outside]

theorem split_within (depth : Nat) (c : Char) (rest : List Char)
    (within : ¬(separates c = true ∧ brackets.step depth c = 0)) :
    splitOutside brackets separates depth (c :: rest) =
      consFirst c (splitOutside brackets separates (brackets.step depth c) rest) := by
  simp only [splitOutside, Bool.and_eq_true, beq_iff_eq, within, if_false]

theorem split_kept (depth : Nat) (c : Char) (rest : List Char) (kept : separates c = false) :
    splitOutside brackets separates depth (c :: rest) =
      consFirst c (splitOutside brackets separates (brackets.step depth c) rest) := by
  apply split_within
  rintro ⟨separator, _⟩
  rw [kept] at separator
  cases separator

theorem split_unbroken (depth : Nat) (piece : List Char)
    (unbroken : Unbroken brackets separates depth piece) :
    splitOutside brackets separates depth piece = [piece] := by
  induction piece generalizing depth with
  | nil => rfl
  | cons c rest ih => rw [split_within _ _ _ unbroken.1, ih _ unbroken.2, consFirst]

theorem split_closed (neutral : Neutral brackets separates) (depth : Nat) (piece rest : List Char) (c : Char)
    (separator : separates c = true) (closed : Closed brackets separates depth piece) :
    splitOutside brackets separates depth (piece ++ c :: rest) =
      piece :: splitOutside brackets separates 0 rest := by
  induction piece generalizing depth with
  | nil =>
    have outside : depth = 0 := closed.2
    exact split_at_separator _ _ _ separator (by rw [neutral _ _ separator, outside])
  | cons d piece ih =>
    obtain ⟨⟨within, unbroken⟩, ends⟩ := closed
    rw [List.cons_append, split_within _ _ _ within, ih _ ⟨unbroken, ends⟩, consFirst]

-- The pieces of a text: each is unbroken, and each that another one follows is closed. The scan of the
-- first piece begins where the scan of the text does, that of every other one at depth 0.
theorem split_pieces (neutral : Neutral brackets separates) (depth : Nat) (cs first : List Char)
    (rest : List (List Char)) (split : splitOutside brackets separates depth cs = first :: rest) :
    Unbroken brackets separates depth first ∧
      (rest ≠ [] → brackets.depthAfter depth first = 0) ∧
      (∀ piece ∈ rest, Unbroken brackets separates 0 piece) ∧
      ∀ piece ∈ rest.dropLast, Closed brackets separates 0 piece := by
  induction cs generalizing depth first rest with
  | nil =>
    obtain ⟨rfl, rfl⟩ := List.cons.inj split
    exact ⟨trivial, fun more => absurd rfl more, by simp, by simp⟩
  | cons c tail ih =>
    -- A separator at depth 0 ends the first piece. Anything else is put in front of it.
    by_cases here : separates c = true ∧ brackets.step depth c = 0
    · rw [split_at_separator _ _ _ here.1 here.2] at split
      obtain ⟨rfl, rfl⟩ := List.cons.inj split
      obtain ⟨second, others, later⟩ := split_cons_exists brackets separates 0 tail
      obtain ⟨unbroken, ends, pieces, inner⟩ := ih 0 second others later
      refine ⟨trivial, fun _ => ?_, ?_, ?_⟩
      · rw [neutral _ _ here.1] at here
        exact here.2
      · intro piece member
        rw [later] at member
        rcases List.mem_cons.mp member with rfl | other
        · exact unbroken
        · exact pieces piece other
      · intro piece member
        rw [later] at member
        cases others with
        | nil => cases member
        | cons third fourth =>
          rw [List.dropLast_cons_of_ne_nil (List.cons_ne_nil third fourth)] at member
          rcases List.mem_cons.mp member with rfl | other
          · exact ⟨unbroken, ends (List.cons_ne_nil _ _)⟩
          · exact inner piece other
    · rw [split_within _ _ _ here] at split
      obtain ⟨front, others, later⟩ := split_cons_exists brackets separates (brackets.step depth c) tail
      rw [later, consFirst] at split
      obtain ⟨rfl, rfl⟩ := List.cons.inj split
      obtain ⟨unbroken, ends, pieces, inner⟩ := ih _ front others later
      exact ⟨⟨here, unbroken⟩, ends, pieces, inner⟩

theorem split_all_unbroken (neutral : Neutral brackets separates) (cs piece : List Char)
    (member : piece ∈ splitOutside brackets separates 0 cs) : Unbroken brackets separates 0 piece := by
  obtain ⟨first, rest, split⟩ := split_cons_exists brackets separates 0 cs
  obtain ⟨unbroken, _, pieces, _⟩ := split_pieces neutral 0 cs first rest split
  rw [split] at member
  rcases List.mem_cons.mp member with rfl | other
  · exact unbroken
  · exact pieces piece other

theorem split_front_closed (neutral : Neutral brackets separates) (cs piece : List Char)
    (member : piece ∈ (splitOutside brackets separates 0 cs).dropLast) :
    Closed brackets separates 0 piece := by
  obtain ⟨first, rest, split⟩ := split_cons_exists brackets separates 0 cs
  obtain ⟨unbroken, ends, _, inner⟩ := split_pieces neutral 0 cs first rest split
  rw [split] at member
  cases rest with
  | nil => cases member
  | cons second others =>
    rw [List.dropLast_cons_of_ne_nil (List.cons_ne_nil second others)] at member
    rcases List.mem_cons.mp member with rfl | other
    · exact ⟨unbroken, ends (List.cons_ne_nil _ _)⟩
    · exact inner piece other

def ended (c : Char) (pieces : List (List Char)) : List Char := pieces.flatMap (· ++ [c])

theorem split_ended (neutral : Neutral brackets separates) (c : Char) (separator : separates c = true)
    (pieces : List (List Char)) (last : List Char)
    (closed : ∀ piece ∈ pieces, Closed brackets separates 0 piece)
    (unbroken : Unbroken brackets separates 0 last) :
    splitOutside brackets separates 0 (ended c pieces ++ last) = pieces ++ [last] := by
  induction pieces with
  | nil => exact split_unbroken 0 last unbroken
  | cons piece pieces ih =>
    have front := closed piece List.mem_cons_self
    have others := ih fun other member => closed other (List.mem_cons_of_mem _ member)
    have shape : ended c (piece :: pieces) ++ last = piece ++ c :: (ended c pieces ++ last) := by
      simp [ended]
    rw [shape, split_closed neutral 0 piece _ c separator front, others, List.cons_append]

theorem ended_split (c : Char) (only : ∀ d, separates d = true → d = c) (depth : Nat) (cs : List Char) :
    ended c (splitOutside brackets separates depth cs).dropLast ++
      (splitOutside brackets separates depth cs).getLastD [] = cs := by
  induction cs generalizing depth with
  | nil => rfl
  | cons d tail ih =>
    by_cases here : separates d = true ∧ brackets.step depth d = 0
    · obtain ⟨first, rest, split⟩ := split_cons_exists brackets separates 0 tail
      have whole := ih 0
      rw [split_at_separator _ _ _ here.1 here.2, split] at *
      simpa [ended, only d here.1] using whole
    · obtain ⟨first, rest, split⟩ := split_cons_exists brackets separates (brackets.step depth d) tail
      have whole := ih (brackets.step depth d)
      rw [split_within _ _ _ here, split, consFirst]
      rw [split] at whole
      cases rest with
      | nil => simpa [ended] using whole
      | cons second others => simpa [ended] using whole

def unseparated (brackets : Brackets) (separates : Char → Bool) : Nat → List Char → List Char
  | _, [] => []
  | depth, c :: rest =>
    let depth := brackets.step depth c
    if separates c && depth == 0 then unseparated brackets separates depth rest
    else c :: unseparated brackets separates depth rest

theorem flatten_split (depth : Nat) (cs : List Char) :
    (splitOutside brackets separates depth cs).flatten = unseparated brackets separates depth cs := by
  induction cs generalizing depth with
  | nil => rfl
  | cons c rest ih =>
    have later := ih (brackets.step depth c)
    unfold splitOutside unseparated
    dsimp only
    split
    · exact later
    · obtain ⟨first, others, split⟩ := split_cons_exists brackets separates (brackets.step depth c) rest
      rw [split] at later ⊢
      exact congrArg (List.cons c) later

theorem unseparated_append (depth : Nat) (front back : List Char) :
    unseparated brackets separates depth (front ++ back) = unseparated brackets separates depth front ++
      unseparated brackets separates (brackets.depthAfter depth front) back := by
  induction front generalizing depth with
  | nil => rfl
  | cons c rest ih =>
    have later := ih (brackets.step depth c)
    simp only [List.cons_append, unseparated]
    split
    · exact later
    · exact congrArg (List.cons c) later

theorem unseparated_cons (depth : Nat) (c : Char) (rest : List Char) (kept : separates c = false) :
    unseparated brackets separates depth (c :: rest) =
      c :: unseparated brackets separates (brackets.step depth c) rest := by
  simp [unseparated, kept]

theorem mem_unseparated (depth : Nat) (cs : List Char) (c : Char) (member : c ∈ cs) (kept : separates c = false) :
    c ∈ unseparated brackets separates depth cs := by
  obtain ⟨front, back, rfl⟩ := List.append_of_mem member
  rw [unseparated_append, unseparated_cons _ c back kept]
  exact List.mem_append_right _ List.mem_cons_self

theorem unseparated_sublist (depth : Nat) (cs : List Char) : (unseparated brackets separates depth cs).Sublist cs := by
  induction cs generalizing depth with
  | nil => exact List.Sublist.slnil
  | cons c rest ih =>
    unfold unseparated
    dsimp only
    split
    · exact (ih _).cons c
    · exact (ih _).cons_cons c

theorem unseparated_tight (depth : Nat) (cs : List Char) (tight : Tight separates cs) :
    Tight separates (unseparated brackets separates depth cs) := by
  rcases List.eq_nil_or_concat' cs with rfl | ⟨front, last, rfl⟩
  · exact ⟨nofun, nofun⟩
  · have ends := tight.2 last List.getLast?_concat
    constructor
    · cases whole : front ++ [last] with
      | nil => exact nofun
      | cons c rest =>
        have begins := tight.1 c (by rw [whole]; rfl)
        rw [unseparated_cons depth c rest begins]
        rintro d ⟨⟩
        exact begins
    · rw [unseparated_append, unseparated_cons _ last [] ends]
      intro d final
      rw [List.getLast?_append_of_ne_nil _ (List.cons_ne_nil _ _)] at final
      cases final
      exact ends

end
end UtilityCss.Text
