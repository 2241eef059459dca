import UtilityCss.Proofs.Css.Canonical
import UtilityCss.Proofs.Text.Casing
import UtilityCss.Proofs.Text.Unspaced

namespace UtilityCss.Css
open Text

-- No blanks at the ends, and small letters unless the case means something.
structure NormalValue (s : String) : Prop where
  trimmed : trim s = s
  cased : keepsCase s.toList = true ∨ lowercase s = s

theorem canonical_of_normal (s : String) (normal : NormalValue s) : canonical s = s := by
  unfold canonical
  dsimp only
  rw [normal.trimmed]
  rcases normal.cased with kept | small
  · exact if_pos kept
  · rw [small, ite_self]

theorem canonical_normal (value : String) : NormalValue (canonical value) := by
  have ends := trim_trim value
  unfold canonical
  dsimp only
  split
  · rename_i kept
    exact ⟨ends, .inl kept⟩
  · exact ⟨trim_lowercase _ ends, .inr (lowercase_lowercase _)⟩

-- No blanks at the ends, small letters, no digit that stands for two, and no blanks at all in a call.
structure NormalColor (s : String) : Prop where
  trimmed : trim s = s
  small : lowercase s = s
  long : longHex? s.toList = none
  closed : isColorCall s.toList = true → Unspaced s

theorem unblanked_eq_self (s : String) (unspaced : Unspaced s) : s.toList.filter (fun c => !isBlank c) = s.toList := by
  rw [List.filter_eq_self]
  intro c member
  rw [unspaced c member]
  rfl

theorem canonicalColor_of_normal (s : String) (normal : NormalColor s) : canonicalColor s = s := by
  rw [canonicalColor, normal.trimmed, normal.small, canonicalColorText, normal.long]
  dsimp only
  split
  · rename_i called
    rw [unblanked_eq_self s (normal.closed called), String.ofList_toList]
  · exact String.ofList_toList

theorem normalColor_of_unspaced (cs : List Char) (unspaced : ∀ c ∈ cs, isBlank c = false)
    (small : ∀ c ∈ cs, Lowered c) (long : longHex? cs = none) : NormalColor (String.ofList cs) := by
  constructor
  · rw [trim_eq_self, String.toList_ofList]
    exact ⟨fun c first => unspaced c (List.mem_of_mem_head? first),
      fun c last => unspaced c (List.mem_of_getLast? last)⟩
  · rwa [lowercase_eq_self_iff, String.toList_ofList]
  · rwa [String.toList_ofList]
  · intro _ c member
    rw [String.toList_ofList] at member
    exact unspaced c member

theorem hexDigit_range (c : Char) (digit : isHexDigit c = true) :
    (0x30 ≤ c.toNat ∧ c.toNat ≤ 0x39) ∨ (0x61 ≤ c.toNat ∧ c.toNat ≤ 0x66) := by
  simpa [isHexDigit] using digit

theorem longHex?_normal (cs long : List Char) (expanded : longHex? cs = some long) :
    NormalColor (String.ofList long) := by
  obtain ⟨digits, _, few, hex, rfl⟩ := (longHex?_eq_some_iff cs long).mp expanded
  have range : ∀ c ∈ digits.flatMap fun c => [c, c],
      (0x30 ≤ c.toNat ∧ c.toNat ≤ 0x39) ∨ (0x61 ≤ c.toNat ∧ c.toNat ≤ 0x66) := by
    intro c member
    obtain ⟨digit, listed, same⟩ := List.mem_flatMap.mp member
    obtain rfl : c = digit := by simpa using same
    exact hexDigit_range c (hex c listed)
  apply normalColor_of_unspaced
  · refine List.forall_mem_cons.mpr ⟨by decide, fun c member => ?_⟩
    have within := range c member
    exact isBlank_of_range c (by omega)
  · refine List.forall_mem_cons.mpr ⟨lowered_ascii '#' (by decide) (by decide), fun c member => ?_⟩
    have within := range c member
    exact lowered_ascii c (by omega) (by omega)
  -- Doubled digits are six or eight. What is doubled has three or four.
  · have doubled : (digits.flatMap fun c => [c, c]).length = digits.length * 2 := by
      simp [List.length_flatMap]
    rw [Option.eq_none_iff_forall_ne_some]
    intro longer again
    obtain ⟨others, same, count, _⟩ := (longHex?_eq_some_iff _ longer).mp again
    rw [(List.cons.inj same).2] at doubled
    omega

theorem call_normal (cs : List Char) (small : ∀ c ∈ cs, Lowered c) (called : isColorCall cs = true) :
    NormalColor (String.ofList (cs.filter fun c => !isBlank c)) := by
  apply normalColor_of_unspaced
  · intro c member
    simpa using (List.mem_filter.mp member).2
  · exact fun c member => small c (List.mem_filter.mp member).1
  · obtain ⟨c, rest, rfl, letter⟩ := isColorCall_head cs called
    have within : 0x61 ≤ c.toNat ∧ c.toNat ≤ 0x7a := by simpa [isLowerLetter] using letter
    have kept : isBlank c = false := isBlank_of_range c (by omega)
    rw [List.filter_cons_of_pos (by simp [kept])]
    apply longHex?_cons_of_ne
    rintro rfl
    exact absurd within.1 (by decide)

theorem canonicalColor_normal (value : String) : NormalColor (canonicalColor value) := by
  have ends := trim_lowercase _ (trim_trim value)
  have same := lowercase_lowercase (trim value)
  have small := (lowercase_eq_self_iff _).mp same
  unfold canonicalColor canonicalColorText
  cases expanded : longHex? (lowercase (trim value)).toList with
  | some long => exact longHex?_normal _ long expanded
  | none =>
    dsimp only
    split
    · rename_i called
      exact call_normal _ small called
    · rename_i uncalled
      rw [String.ofList_toList]
      exact ⟨ends, same, expanded, fun called => absurd called uncalled⟩

theorem canonicalColor_canonical (value : String) : canonicalColor (canonical value) = canonicalColor value := by
  unfold canonical
  dsimp only
  split
  · exact canonicalColor_trim value
  · rw [canonicalColor, trim_lowercase _ (trim_trim value), lowercase_lowercase]
    rfl

theorem canonical_forms_stable (value : String) : canonical (canonical value) = canonical value ∧
    canonicalColor (canonicalColor value) = canonicalColor value ∧
    canonicalColor (canonical value) = canonicalColor value :=
  ⟨canonical_of_normal _ (canonical_normal value), canonicalColor_of_normal _ (canonicalColor_normal value),
    canonicalColor_canonical value⟩

-- The sigma is a final one where the blank was, and stays one without it.
example : canonicalColor " LAB(ΑΣ Β)" = "lab(αςβ)" ∧ canonicalColor "lab(αςβ)" = "lab(αςβ)" ∧
    canonicalColor "LAB(ΑΣΒ)" = "lab(ασβ)" := by
  decide +kernel

end UtilityCss.Css
