import UtilityCss.Proofs.Entries
import UtilityCss.Proofs.Text.Lettercase
import UtilityCss.Property.Keyword

namespace UtilityCss
open Text Css

namespace Css

-- Calls and strings may hold a name in which case matters, so they are left as they are.
def Literal (value : String) : Prop := ∀ c ∈ value.toList, c ≠ '(' ∧ c ≠ '\x22' ∧ c ≠ '\x27'

instance (value : String) : Decidable (Literal value) :=
  decidable_of_iff (value.toList.all fun c => decide (c ≠ '(' ∧ c ≠ '\x22' ∧ c ≠ '\x27')) (by simp [Literal])

def isNameLike (value : String) : Bool := startsProperNoun (trim value).toList

theorem canonical_of_literal (value : String) (literal : Literal value) :
    canonical value = if isNameLike value then trim value else lowercase (trim value) := by
  have unmarked : (trim value).toList.any (fun c => c == '(' || c == '\x22' || c == '\x27') = false := by
    rw [List.any_eq_false]
    intro c member
    simpa [and_assoc] using literal c ((trim_sublist value).subset member)
  unfold canonical keepsCase
  dsimp only
  rw [unmarked, Bool.false_or]
  rfl

theorem startsProperNoun_of_small (cs : List Char) (small : cs.map lowerAscii = cs) : startsProperNoun cs = false := by
  match cs with
  | [] | [_] => rfl
  | a :: b :: rest =>
    have kept : lowerAscii a = a := (List.cons.inj small).1
    have no_capital : ¬(0x41 ≤ a.toNat ∧ a.toNat ≤ 0x5a) := by
      intro capital
      have moved := toNat_lowerAscii a capital
      rw [kept] at moved
      omega
    simp only [startsProperNoun, Bool.and_eq_false_iff, decide_eq_false_iff_not]
    omega

end Css

namespace Property

def smallKeywordClass (table : List (String × String)) (value : String) : String :=
  (Entries.find? (lowercase (trim value)) table).getD ""

section
variable (table : List (String × String)) (small : ∀ key ∈ Entries.keys table, key.toList.map lowerAscii = key.toList)
  (ctx : Context)

theorem keyword_of_other (value : String) (literal : Literal value) (other : isNameLike value = false) :
    keyword table ctx value = Match.single (smallKeywordClass table value) := by
  unfold keyword
  rw [canonical_of_literal value literal, other]
  rfl

include small in
theorem keyword_of_nameLike (value : String) (literal : Literal value) (like : isNameLike value = true) :
    keyword table ctx value = Match.none := by
  have missed : Entries.find? (trim value) table = none := by
    cases found : Entries.find? (trim value) table with
    | none => rfl
    | some name =>
      have known : trim value ∈ Entries.keys table := List.mem_map_of_mem (Entries.mem_of_find? _ _ _ found)
      have plain := startsProperNoun_of_small _ (small _ known)
      rw [isNameLike, plain] at like
      cases like
  unfold keyword
  rw [canonical_of_literal value literal, like, if_pos rfl, missed]
  rfl

end

theorem single_eq_none_iff (name : String) : Match.single name = Match.none ↔ name = "" := by
  constructor
  · intro same
    by_contra filled
    rw [Match.single, Match.warned, if_neg filled] at same
    cases same
  · rintro rfl
    rfl

-- In two cases a keyword has one class, unless one of the two is written like a name: that one has no class.
theorem keyword_of_case (table : List (String × String))
    (small : ∀ key ∈ Entries.keys table, key.toList.map lowerAscii = key.toList) (ctx : Context)
    (value other : String) (literal : Literal value) (plain : Literal other) (same : SameLetters value other) :
    (isNameLike value = true → keyword table ctx value = Match.none) ∧
      (isNameLike value = false → keyword table ctx value = Match.single (smallKeywordClass table value)) ∧
      (keyword table ctx value = keyword table ctx other ↔
        isNameLike value = isNameLike other ∨ smallKeywordClass table value = "") := by
  have class_eq : smallKeywordClass table value = smallKeywordClass table other := by
    rw [smallKeywordClass, smallKeywordClass, same.trim.lowercase]
  refine ⟨keyword_of_nameLike table small ctx value literal, keyword_of_other table ctx value literal, ?_⟩
  cases like : isNameLike value with
  | true =>
    rw [keyword_of_nameLike table small ctx value literal like]
    cases again : isNameLike other with
    | true => simp [keyword_of_nameLike table small ctx other plain again]
    | false =>
      rw [keyword_of_other table ctx other plain again, class_eq, eq_comm, single_eq_none_iff]
      simp
  | false =>
    rw [keyword_of_other table ctx value literal like]
    cases again : isNameLike other with
    | true =>
      rw [keyword_of_nameLike table small ctx other plain again, single_eq_none_iff]
      simp
    | false => simp [keyword_of_other table ctx other plain again, class_eq]

theorem keyword_of_case_mixed :
    let ctx : Context := ⟨none, none, .current, false, false, .standard, standardScreens, false⟩
    (∀ key ∈ Entries.keys flexDirection, key.toList.map lowerAscii = key.toList) ∧ Literal " ROW-Reverse" ∧
      Literal " rOW-REVERSE" ∧ SameLetters " ROW-Reverse" " rOW-REVERSE" ∧
      keyword flexDirection ctx " ROW-Reverse" = ⟨["flex-row-reverse"], []⟩ ∧
      keyword flexDirection ctx " ROW-Reverse" = keyword flexDirection ctx " rOW-REVERSE" := by
  intro ctx
  have small : ∀ key ∈ Entries.keys flexDirection, key.toList.map lowerAscii = key.toList := by decide
  have literal : Literal " ROW-Reverse" := by decide
  have plain : Literal " rOW-REVERSE" := by decide
  have same : SameLetters " ROW-Reverse" " rOW-REVERSE" := by decide
  obtain ⟨_, looked, iff⟩ := keyword_of_case flexDirection small ctx _ _ literal plain same
  have other : isNameLike " ROW-Reverse" = isNameLike " rOW-REVERSE" := by decide +kernel
  have class_eq : smallKeywordClass flexDirection " ROW-Reverse" = "flex-row-reverse" := by decide +kernel
  refine ⟨small, literal, plain, same, ?_, iff.mpr (.inl other)⟩
  rw [looked (by decide +kernel), class_eq]
  rfl

theorem keyword_of_capital :
    let ctx : Context := ⟨none, none, .current, false, false, .standard, standardScreens, false⟩
    (∀ key ∈ Entries.keys display, key.toList.map lowerAscii = key.toList) ∧ Literal "Block" ∧ Literal "block" ∧
      SameLetters "Block" "block" ∧ keyword display ctx "Block" = Match.none ∧
      keyword display ctx "block" = ⟨["block"], []⟩ ∧ keyword display ctx "BLOCK" = ⟨["block"], []⟩ ∧
      keyword display ctx "Block" ≠ keyword display ctx "block" := by
  decide +kernel

end Property
end UtilityCss
