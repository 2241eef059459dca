import UtilityCss.Proofs.Css.Canonical
import UtilityCss.Proofs.Text.Lettercase
import UtilityCss.Proofs.Text.Unspaced
import UtilityCss.Resolve.Search

namespace UtilityCss
open Text

namespace Css

def colorCall (name : String) (components : List String) : String :=
  name ++ "(" ++ String.intercalate " " components ++ ")"

def isComponentChar (c : Char) : Bool := c.isAlphanum || c == '.' || c == '%' || c == '-'

structure Component (s : String) : Prop where
  filled : s ≠ ""
  plain : ∀ c ∈ s.toList, isComponentChar c = true

instance (s : String) : Decidable (Component s) :=
  decidable_of_iff (s ≠ "" ∧ s.toList.all isComponentChar = true)
    ⟨fun ⟨filled, plain⟩ => ⟨filled, List.all_eq_true.mp plain⟩,
      fun ⟨filled, plain⟩ => ⟨filled, List.all_eq_true.mpr plain⟩⟩

theorem componentChar_range (c : Char) (plain : isComponentChar c = true) : 0x20 < c.toNat ∧ c.toNat < 0x80 := by
  delta isComponentChar Char.isAlphanum Char.isAlpha Char.isUpper Char.isLower Char.isDigit at plain
  simp only [Bool.or_eq_true, Bool.and_eq_true, decide_eq_true_eq, beq_iff_eq, UInt32.le_iff_toNat_le,
    ge_iff_le] at plain
  rcases plain with (((letter | digit) | rfl) | rfl) | rfl
  · change (65 ≤ c.toNat ∧ c.toNat ≤ 90) ∨ (97 ≤ c.toNat ∧ c.toNat ≤ 122) at letter
    omega
  · change 48 ≤ c.toNat ∧ c.toNat ≤ 57 at digit
    omega
  · decide
  · decide
  · decide

theorem Component.ascii {s : String} (component : Component s) : ∀ c ∈ s.toList, c.toNat < 0x80 :=
  fun c member => (componentChar_range c (component.plain c member)).2

theorem Component.unspaced {s : String} (component : Component s) : Unspaced s :=
  fun c member => isBlank_of_range c (componentChar_range c (component.plain c member))

theorem Component.toList_lowercase {s : String} (component : Component s) :
    (lowercase s).toList = s.toList.map lowerAscii := by
  rw [Text.toList_lowercase, lowerAfter_ascii [] _ component.ascii]

theorem spaced_kept (names : List String) (each : ∀ name ∈ names, Unspaced name) :
    (String.intercalate " " names).toList.filter (fun c => !isBlank c) = names.flatMap String.toList := by
  have space : " ".toList.filter (fun c => !isBlank c) = [] := by decide
  have kept : ∀ name ∈ names, name.toList.filter (fun c => !isBlank c) = name.toList := by
    intro name member
    rw [List.filter_eq_self]
    intro c inside
    rw [each name member c inside]
    rfl
  induction names with
  | nil => rfl
  | cons name rest ih =>
    obtain ⟨first, others⟩ := List.forall_mem_cons.mp kept
    have later := ih (List.forall_mem_cons.mp each).2 others
    cases rest with
    | nil => rw [String.intercalate_singleton, first, List.flatMap_singleton]
    | cons second more =>
      rw [String.intercalate_cons_of_ne_nil (List.cons_ne_nil second more), String.toList_append,
        String.toList_append, List.filter_append, List.filter_append, first, later, space, List.append_nil]
      rfl

theorem colorFunctions_letters : ∀ name ∈ colorFunctions, name ≠ "" ∧
    ∀ c ∈ name.toList, isLowerLetter c = true ∧ lowerAscii c = c ∧ 0x20 < c.toNat ∧ c.toNat < 0x80 := by
  have checked : ∀ name ∈ colorFunctions, name ≠ "" ∧ name.toList.all (fun c =>
      decide (isLowerLetter c = true ∧ lowerAscii c = c ∧ 0x20 < c.toNat ∧ c.toNat < 0x80)) = true := by
    decide +kernel
  intro name known
  obtain ⟨filled, letters⟩ := checked name known
  exact ⟨filled, fun c member => of_decide_eq_true (List.all_eq_true.mp letters c member)⟩

theorem canonicalColorText_call (name : String) (known : name ∈ colorFunctions) (rest : List Char) :
    canonicalColorText (name.toList ++ '(' :: rest) =
      (name.toList ++ '(' :: rest).filter fun c => !isBlank c := by
  obtain ⟨filled, each⟩ := colorFunctions_letters name known
  have letters : ∀ c ∈ name.toList, isLowerLetter c = true := fun c member => (each c member).1
  have short : longHex? (name.toList ++ '(' :: rest) = none := by
    obtain ⟨c, others, shape⟩ := List.exists_cons_of_ne_nil (mt String.toList_eq_nil_iff.mp filled)
    have letter := letters c (by rw [shape]; exact List.mem_cons_self)
    rw [shape, List.cons_append]
    apply longHex?_cons_of_ne
    rintro rfl
    exact absurd letter (by decide)
  have called : isColorCall (name.toList ++ '(' :: rest) = true := by
    obtain ⟨lead, tail⟩ := run_of_all name.toList ('(' :: rest) letters (by rintro c ⟨⟩; decide)
    rw [isColorCall, lead, tail, String.ofList_toList, List.contains_iff_mem.mpr known,
      List.dropWhile_cons_of_neg (by decide)]
    rfl
  rw [canonicalColorText, short]
  exact if_pos called

theorem toList_colorCall (name : String) (components : List String) : (colorCall name components).toList =
    name.toList ++ '(' :: ((String.intercalate " " components).toList ++ [')']) := by
  simp [colorCall]

theorem trim_colorCall (name : String) (known : name ∈ colorFunctions) (components : List String) :
    trim (colorCall name components) = colorCall name components := by
  obtain ⟨filled, letters⟩ := colorFunctions_letters name known
  rw [trim_eq_self, toList_colorCall]
  constructor
  · intro c first
    rw [List.head?_append_of_ne_nil _ (mt String.toList_eq_nil_iff.mp filled)] at first
    exact isBlank_of_range c (letters c (List.mem_of_mem_head? first)).2.2
  · intro c last
    rw [← List.cons_append, ← List.append_assoc, List.getLast?_concat] at last
    cases last
    decide

theorem join_ascii (components : List String) (each : ∀ s ∈ components, Component s) :
    ∀ c ∈ (String.join components).toList, c.toNat < 0x80 := by
  rw [String.toList_join]
  intro c member
  obtain ⟨s, listed, own⟩ := List.mem_flatMap.mp member
  exact (each s listed).ascii c own

theorem map_lowerAscii_filter (cs : List Char) :
    (cs.map lowerAscii).filter (fun c => !isBlank c) = (cs.filter fun c => !isBlank c).map lowerAscii := by
  rw [List.filter_map]
  congr 1
  apply List.filter_congr
  intro c _
  exact congrArg (!·) (isBlank_lowerAscii c)

section
variable (name : String) (known : name ∈ colorFunctions) (components : List String)
  (each : ∀ s ∈ components, Component s)
include known each

theorem colorCall_ascii : ∀ c ∈ (colorCall name components).toList, c.toNat < 0x80 := by
  intro c member
  rw [toList_colorCall, List.mem_append, List.mem_cons, List.mem_append, List.mem_singleton] at member
  rcases member with lead | rfl | inside | rfl
  · exact ((colorFunctions_letters name known).2 c lead).2.2.2
  · decide
  · rcases mem_spaced components c inside with rfl | ⟨s, listed, own⟩
    · decide
    · exact (each s listed).ascii c own
  · decide

theorem colorCall_kept : (colorCall name components).toList.filter (fun c => !isBlank c) =
    name.toList ++ '(' :: (components.flatMap String.toList ++ [')']) := by
  have lead : name.toList.filter (fun c => !isBlank c) = name.toList := by
    rw [List.filter_eq_self]
    intro c member
    rw [isBlank_of_range c ((colorFunctions_letters name known).2 c member).2.2]
    rfl
  rw [toList_colorCall, List.filter_append, lead, List.filter_cons_of_pos (by decide), List.filter_append,
    spaced_kept components fun s member => (each s member).unspaced]
  rfl

theorem canonicalColor_call : canonicalColor (colorCall name components) =
    name ++ "(" ++ lowercase (String.join components) ++ ")" := by
  have lead : name.toList.map lowerAscii = name.toList := by
    rw [List.map_congr_left fun c member => ((colorFunctions_letters name known).2 c member).2.1, List.map_id']
  have lowered : (colorCall name components).toList.map lowerAscii =
      name.toList ++ '(' :: ((String.intercalate " " components).toList ++ [')']).map lowerAscii := by
    rw [toList_colorCall, List.map_append, lead]
    rfl
  apply String.toList_inj.mp
  calc (canonicalColor (colorCall name components)).toList
      = canonicalColorText ((colorCall name components).toList.map lowerAscii) := by
        rw [canonicalColor, trim_colorCall name known, toList_lowercase,
          lowerAfter_ascii [] _ (colorCall_ascii name known components each), String.toList_ofList]
    _ = ((colorCall name components).toList.map lowerAscii).filter (fun c => !isBlank c) := by
        rw [lowered, canonicalColorText_call name known]
    _ = (name.toList ++ '(' :: (components.flatMap String.toList ++ [')'])).map lowerAscii := by
        rw [map_lowerAscii_filter, colorCall_kept name known components each]
    _ = name.toList ++ '(' :: ((String.join components).toList.map lowerAscii ++ [')']) := by
        rw [List.map_append, lead, List.map_cons, List.map_append, String.toList_join]
        rfl
    _ = (name ++ "(" ++ lowercase (String.join components) ++ ")").toList := by
        rw [← lowerAfter_ascii [] _ (join_ascii components each), ← toList_lowercase]
        simp

end

theorem lowercase_join (components : List String) (each : ∀ s ∈ components, Component s) :
    (lowercase (String.join components)).toList = (components.map fun s => (lowercase s).toList).flatten := by
  rw [toList_lowercase, lowerAfter_ascii [] _ (join_ascii components each), String.toList_join, List.map_flatMap,
    ← List.flatMap_def]
  exact List.flatMap_congr fun s member => (each s member).toList_lowercase.symm

theorem lowercase_lengths (components : List String) (each : ∀ s ∈ components, Component s) :
    (components.map fun s => (lowercase s).toList).map List.length = components.map String.length := by
  rw [List.map_map]
  apply List.map_congr_left
  intro s member
  rw [Function.comp_apply, (each s member).toList_lowercase, List.length_map, String.length_toList]

theorem components_alike_iff (left right : List String) (eachLeft : ∀ s ∈ left, Component s)
    (eachRight : ∀ s ∈ right, Component s) : left.map lowercase = right.map lowercase ↔
      lowercase (String.join left) = lowercase (String.join right) ∧
        left.map String.length = right.map String.length := by
  have texts : ∀ names : List String, names.map (fun s => (lowercase s).toList) = (names.map lowercase).map
      String.toList := fun names => by rw [List.map_map]; rfl
  rw [← lowercase_lengths left eachLeft, ← lowercase_lengths right eachRight, ← String.toList_inj,
    lowercase_join left eachLeft, lowercase_join right eachRight, ← List.eq_iff_flatten_eq, texts, texts]
  exact (List.map_injective_iff.mpr fun _ _ => String.toList_inj.mp).eq_iff.symm

theorem canonicalColor_call_eq_iff (name : String) (left right : List String) (known : name ∈ colorFunctions)
    (eachLeft : ∀ s ∈ left, Component s) (eachRight : ∀ s ∈ right, Component s) :
    (canonicalColor (colorCall name left) = canonicalColor (colorCall name right) ↔
        lowercase (String.join left) = lowercase (String.join right)) ∧
      (left.map lowercase = right.map lowercase ↔
        canonicalColor (colorCall name left) = canonicalColor (colorCall name right) ∧
          left.map String.length = right.map String.length) := by
  have forms : canonicalColor (colorCall name left) = canonicalColor (colorCall name right) ↔
      lowercase (String.join left) = lowercase (String.join right) := by
    rw [canonicalColor_call name known left eachLeft, canonicalColor_call name known right eachRight]
    constructor
    · intro same
      exact (String.append_right_inj _).mp ((String.append_left_inj _).mp same)
    · intro same
      rw [same]
  exact ⟨forms, by rw [forms, components_alike_iff left right eachLeft eachRight]⟩

theorem canonicalColor_call_eq_of_cases :
    let left := ["Display-P3", "1", ".5", "40%"]
    let right := ["display-p3", "1", ".5", "40%"]
    "color" ∈ colorFunctions ∧ (∀ s ∈ left, Component s) ∧ (∀ s ∈ right, Component s) ∧
      canonicalColor (colorCall "color" left) = canonicalColor (colorCall "color" right) := by
  intro left right
  have known : "color" ∈ colorFunctions := by decide
  have eachLeft : ∀ s ∈ left, Component s := by decide
  have eachRight : ∀ s ∈ right, Component s := by decide
  obtain ⟨_, alike⟩ := canonicalColor_call_eq_iff "color" left right known eachLeft eachRight
  exact ⟨known, eachLeft, eachRight, (alike.mp (by decide +kernel)).1⟩

theorem canonicalColor_of_merged_components :
    let left := ["1", "23", "4"]
    let right := ["12", "3", "4"]
    let theme : Layer := { Layer.empty with colors := ⟨[("brand", "rgb(1 23 4)")]⟩ }
    let ctx : Context := ⟨some theme, none, .current, false, false, .standard, standardScreens, false⟩
    colorCall "rgb" left = "rgb(1 23 4)" ∧ colorCall "rgb" right = "rgb(12 3 4)" ∧
      (∀ s ∈ left, Component s) ∧ (∀ s ∈ right, Component s) ∧
      canonicalColor (colorCall "rgb" left) = canonicalColor (colorCall "rgb" right) ∧
      left.map lowercase ≠ right.map lowercase ∧
      resolve ctx .colors (colorCall "rgb" right) = .exact "brand" (some .current) false none := by
  decide +kernel

end Css
end UtilityCss
