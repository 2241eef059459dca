import UtilityCss.Css.Color
import UtilityCss.Css.Declaration
import UtilityCss.Css.Value
import UtilityCss.Proofs.Text.Lowercase

namespace UtilityCss.Css
open Text

theorem trim_written (s : String) : Written (trim s).toList ↔ Written s.toList := by
  rw [toList_trim, written_stripped]

theorem trim_ne_empty_iff (s : String) : trim s ≠ "" ↔ Written s.toList := by
  rw [Ne, ← String.toList_eq_nil_iff, toList_trim]
  exact stripped_ne_nil_iff s.toList

theorem canonical_trim (value : String) : canonical (trim value) = canonical value := by
  unfold canonical
  rw [trim_trim]

theorem canonicalColor_trim (value : String) : canonicalColor (trim value) = canonicalColor value := by
  unfold canonicalColor
  rw [trim_trim]

theorem canonical_written (value : String) (written : Written value.toList) :
    Written (canonical value).toList := by
  have kept := (trim_written value).mpr written
  unfold canonical
  dsimp only
  split
  · exact kept
  · exact lowercase_written _ kept

theorem canonical_ne_empty_iff (value : String) : canonical value ≠ "" ↔ Written value.toList := by
  constructor
  · intro filled
    rw [← trim_ne_empty_iff]
    intro blank
    apply filled
    rw [canonical, blank]
    decide
  · intro written empty
    have form := canonical_written value written
    rw [empty] at form
    exact form.ne_nil rfl

theorem written_of_canonical (value : String) (filled : canonical value ≠ "") :
    Written (canonical value).toList :=
  canonical_written value ((canonical_ne_empty_iff value).mp filled)

theorem longHex?_eq_some_iff (cs long : List Char) : longHex? cs = some long ↔
    ∃ digits, cs = '#' :: digits ∧ (digits.length = 3 ∨ digits.length = 4) ∧
      (∀ c ∈ digits, isHexDigit c = true) ∧ long = '#' :: digits.flatMap fun c => [c, c] := by
  unfold longHex?
  split
  · rename_i digits
    split
    · rename_i short
      simp only [Bool.and_eq_true, Bool.or_eq_true, beq_iff_eq, List.all_eq_true] at short
      constructor
      · rintro ⟨⟩
        exact ⟨digits, rfl, short.1, short.2, rfl⟩
      · rintro ⟨_, ⟨⟩, _, _, rfl⟩
        rfl
    · rename_i other
      simp only [Bool.and_eq_true, Bool.or_eq_true, beq_iff_eq, List.all_eq_true] at other
      refine ⟨nofun, ?_⟩
      rintro ⟨_, ⟨⟩, few, hex, _⟩
      exact absurd ⟨few, hex⟩ other
  · rename_i unmarked
    refine ⟨nofun, ?_⟩
    rintro ⟨digits, rfl, _⟩
    exact absurd rfl (unmarked digits)

theorem longHex?_cons_of_ne (c : Char) (rest : List Char) (other : c ≠ '#') : longHex? (c :: rest) = none := by
  rw [Option.eq_none_iff_forall_ne_some]
  intro long expanded
  obtain ⟨_, same, _⟩ := (longHex?_eq_some_iff _ long).mp expanded
  exact other (List.cons.inj same).1

theorem isColorCall_head (cs : List Char) (called : isColorCall cs = true) :
    ∃ c rest, cs = c :: rest ∧ isLowerLetter c = true := by
  cases cs with
  | nil => exact absurd called (by decide)
  | cons c rest =>
    refine ⟨c, rest, rfl, ?_⟩
    by_contra other
    rw [isColorCall, List.takeWhile_cons_of_neg other] at called
    exact absurd (Bool.and_eq_true_iff.mp called).1 (by decide)

theorem canonicalColor_written (value : String) (written : Written value.toList) :
    Written (canonicalColor value).toList := by
  have lowered := lowercase_written _ ((trim_written value).mpr written)
  rw [canonicalColor, String.toList_ofList]
  generalize (lowercase (trim value)).toList = cs at *
  unfold canonicalColorText
  cases expanded : longHex? cs with
  | some long =>
    obtain ⟨_, _, _, _, rfl⟩ := (longHex?_eq_some_iff cs long).mp expanded
    exact ⟨'#', List.mem_cons_self, by decide⟩
  | none =>
    dsimp only
    split
    · obtain ⟨c, member, kept⟩ := lowered
      refine ⟨c, List.mem_filter.mpr ⟨member, ?_⟩, kept⟩
      rw [kept]
      rfl
    · exact lowered

theorem canonicalColor_ne_empty_iff (value : String) : canonicalColor value ≠ "" ↔ Written value.toList := by
  constructor
  · intro filled
    rw [← trim_ne_empty_iff]
    intro blank
    apply filled
    rw [canonicalColor, blank]
    decide
  · intro written empty
    have form := canonicalColor_written value written
    rw [empty] at form
    exact form.ne_nil rfl

theorem propertyName_propertyName (property : String) :
    propertyName (propertyName property) = propertyName property := by
  unfold propertyName
  rw [trim_lowercase _ (trim_trim property), lowercase_lowercase]

end UtilityCss.Css
