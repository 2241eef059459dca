import UtilityCss.Proofs.Class.Arbitrary
import UtilityCss.Property.Depth

namespace UtilityCss
open Text Css

theorem Match.isMatch_single (name : String) (filled : name ≠ "") : (single name).isMatch = true := by
  rw [isMatch, single, warned_classes name .none filled]
  rfl

namespace Property

def MinusRun (kind : Char → Bool) (minuses : Nat) (cs : List Char) : Prop :=
  ∃ digits, cs = List.replicate minuses '-' ++ digits ∧ digits ≠ [] ∧ ∀ c ∈ digits, kind c = true

-- A place in the stacking order as it should be written: the keyword, or an integer.
def IsLevel (text : String) : Prop :=
  text = "auto" ∨ ∃ minuses ≤ 1, MinusRun isDigit minuses text.toList

section
variable {kind : Char → Bool}

theorem minusRun_iff (minuses : Nat) (cs : List Char) : MinusRun kind minuses cs ↔
    cs.take minuses = List.replicate minuses '-' ∧ cs.drop minuses ≠ [] ∧ (cs.drop minuses).all kind = true := by
  rw [List.all_eq_true]
  constructor
  · rintro ⟨digits, rfl, filled, each⟩
    have fits : (List.replicate minuses '-').length = minuses := List.length_replicate
    rw [List.take_left' fits, List.drop_left' fits]
    exact ⟨rfl, filled, each⟩
  · rintro ⟨front, filled, each⟩
    refine ⟨cs.drop minuses, ?_, filled, each⟩
    rw [← front, List.take_append_drop]

instance (minuses : Nat) (cs : List Char) : Decidable (MinusRun kind minuses cs) :=
  decidable_of_iff _ (minusRun_iff minuses cs).symm

instance (text : String) : Decidable (IsLevel text) :=
  inferInstanceAs (Decidable (_ ∨ ∃ minuses, minuses ≤ 1 ∧ MinusRun isDigit minuses text.toList))

theorem minusRun_of_scan (unsigned : kind '-' = false) (cs : List Char) : (∃ minuses, MinusRun kind minuses cs) ↔
    cs.dropWhile (· == '-') ≠ [] ∧ (cs.dropWhile (· == '-')).all kind = true := by
  rw [List.all_eq_true]
  constructor
  · rintro ⟨minuses, digits, rfl, filled, each⟩
    have digital : ∀ c, digits.head? = some c → c ≠ '-' := by
      rintro _ first rfl
      rw [each '-' (List.mem_of_mem_head? first)] at unsigned
      cases unsigned
    rw [dropWhile_marks '-' minuses digits digital]
    exact ⟨filled, each⟩
  · rintro ⟨filled, each⟩
    refine ⟨(cs.takeWhile (· == '-')).length, cs.dropWhile (· == '-'), ?_, filled, each⟩
    have signs : ∀ c ∈ cs.takeWhile (· == '-'), c = '-' := by
      intro c member
      simpa using List.mem_takeWhile_imp member
    rw [← List.eq_replicate_of_mem signs, List.takeWhile_append_dropWhile]

theorem MinusRun.begins_iff {minuses : Nat} {cs : List Char} (run : MinusRun kind minuses cs)
    (unsigned : kind '-' = false) : ['-', '-'] <+: cs ↔ 2 ≤ minuses := by
  obtain ⟨digits, rfl, filled, each⟩ := run
  obtain ⟨c, rest, rfl⟩ := List.exists_cons_of_ne_nil filled
  have other : '-' ≠ c := by
    rintro rfl
    rw [each '-' List.mem_cons_self] at unsigned
    cases unsigned
  match minuses with
  | 0 | 1 => simp [other]
  | more + 2 => simp [List.replicate_succ]

end

theorem zIndex_isMatch_iff (ctx : Context) (value : String) : (zIndex ctx value).isMatch = true ↔
    canonical value ∈ stackLevels ∨ ∃ minuses, MinusRun isDigitLike minuses (canonical value).toList := by
  rw [minusRun_of_scan (by decide)]
  unfold zIndex
  dsimp only
  split
  · rename_i known
    exact iff_of_true (Match.isMatch_single _ (by simp)) (.inl (List.contains_iff_mem.mp known))
  · rename_i unknown
    split
    · rename_i numbered
      have digits : (canonical value).toList.dropWhile (· == '-') ≠ [] ∧
          ((canonical value).toList.dropWhile (· == '-')).all isDigitLike = true := by
        simpa using numbered
      have filled : canonical value ≠ "" := by
        intro empty
        rw [empty] at digits
        exact digits.1 rfl
      refine iff_of_true ?_ (.inr digits)
      split
      · exact Match.isMatch_single _ (by simp)
      · exact Match.isMatch_single _ (arbitraryClass_ne_empty "z" _ (by decide) (written_of_canonical value filled))
    · rename_i other
      refine iff_of_false Bool.false_ne_true ?_
      rintro (known | digits)
      · exact unknown (List.contains_iff_mem.mpr known)
      · exact other (by simpa using digits)

theorem isLevel_iff (text : String) : IsLevel text ↔
    (text = "auto" ∨ ∃ minuses, MinusRun isDigitLike minuses text.toList) ∧ beginsWith "--" text = false ∧
      ∀ c ∈ text.toList, isDigitLike c = isDigit c := by
  rw [← Bool.not_eq_true, beginsWith, List.isPrefixOf_iff_prefix]
  constructor
  · rintro (rfl | ⟨minuses, few, run⟩)
    · have plain : "auto".toList.all (fun c => isDigitLike c == isDigit c) = true := by decide
      exact ⟨.inl rfl, by decide, fun c member => eq_of_beq (List.all_eq_true.mp plain c member)⟩
    -- More than one sign shows in the first two characters.
    · have signed := (run.begins_iff (by decide)).not.mpr (by omega)
      obtain ⟨digits, whole, filled, each⟩ := run
      refine ⟨.inr ⟨minuses, digits, whole, filled, fun c member => isDigitLike_of_isDigit c (each c member)⟩, signed, ?_⟩
      intro c member
      rw [whole, List.mem_append, List.mem_replicate] at member
      rcases member with ⟨_, rfl⟩ | inside
      · decide
      · rw [each c inside, isDigitLike_of_isDigit c (each c inside)]
  · rintro ⟨rfl | ⟨minuses, run⟩, unsigned, alike⟩
    · exact .inl rfl
    · have few := (run.begins_iff (by decide)).not.mp unsigned
      obtain ⟨digits, whole, filled, each⟩ := run
      refine .inr ⟨minuses, by omega, digits, whole, filled, fun c member => ?_⟩
      rw [← alike c (by rw [whole]; exact List.mem_append_right _ member)]
      exact each c member

theorem zIndex_accepts_iff (ctx : Context) (value : String) :
    ((zIndex ctx value).isMatch = true ↔
      canonical value = "auto" ∨ ∃ minuses, MinusRun isDigitLike minuses (canonical value).toList) ∧
    (IsLevel (canonical value) ↔ (zIndex ctx value).isMatch = true ∧
      beginsWith "--" (canonical value) = false ∧ ∀ c ∈ (canonical value).toList, isDigitLike c = isDigit c) := by
  have levels : ∀ level ∈ stackLevels, level = "auto" ∨ ∃ minuses, MinusRun isDigitLike minuses level.toList := by
    have plain : ∀ level ∈ stackLevels, level = "auto" ∨ MinusRun isDigitLike 0 level.toList := by decide
    exact fun level listed => (plain level listed).imp_right fun run => ⟨0, run⟩
  have accepted : (zIndex ctx value).isMatch = true ↔
      canonical value = "auto" ∨ ∃ minuses, MinusRun isDigitLike minuses (canonical value).toList := by
    rw [zIndex_isMatch_iff]
    constructor
    · rintro (listed | run)
      · exact levels _ listed
      · exact .inr run
    · rintro (auto | run)
      · exact .inl (by rw [auto]; decide)
      · exact .inr run
  refine ⟨accepted, ?_⟩
  rw [accepted]
  exact isLevel_iff (canonical value)

theorem zIndex_accepts_no_level :
    let ctx : Context := ⟨none, none, .current, false, false, .standard, standardScreens, false⟩
    zIndex ctx "--5" = ⟨["z-[--5]"], []⟩ ∧ ¬IsLevel (canonical "--5") ∧
      zIndex ctx "\u00b2" = ⟨["z-[\u00b2]"], []⟩ ∧ ¬IsLevel (canonical "\u00b2") ∧
      zIndex ctx "--10" = ⟨["z-[--10]"], []⟩ ∧ ¬IsLevel (canonical "--10") := by
  decide +kernel

end Property
end UtilityCss
