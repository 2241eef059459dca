import UtilityCss.Proofs.Text.Lowercase

namespace UtilityCss.Text

theorem lowerAscii_of_small (c : Char) (small : ¬(0x41 ≤ c.toNat ∧ c.toNat ≤ 0x5a)) : lowerAscii c = c := if_neg small

theorem toNat_lowerAscii (c : Char) (capital : 0x41 ≤ c.toNat ∧ c.toNat ≤ 0x5a) :
    (lowerAscii c).toNat = c.toNat + 32 := by
  rw [lowerAscii, if_pos capital]
  exact toNat_ofNat _ (.inl (by omega))

theorem not_sigma_of_ascii (c : Char) (ascii : c.toNat < 0x80) : (c == capitalSigma) = false := by
  rw [beq_eq_false_iff_ne]
  rintro rfl
  exact absurd ascii (by decide)

theorem lowerAfter_ascii (before cs : List Char) (ascii : ∀ c ∈ cs, c.toNat < 0x80) :
    lowerAfter before cs = cs.map lowerAscii := by
  induction cs generalizing before with
  | nil => rfl
  | cons c rest ih =>
    obtain ⟨here, later⟩ := List.forall_mem_cons.mp ascii
    rw [lowerAfter, ih (c :: before) later, not_sigma_of_ascii c here, List.map_cons, lowerChar, if_pos here]
    rfl

theorem isBlank_lowerAscii (c : Char) : isBlank (lowerAscii c) = isBlank c := by
  cases blank : isBlank c with
  | false => exact lowerAscii_kept c blank
  | true =>
    have small : ¬(0x41 ≤ c.toNat ∧ c.toNat ≤ 0x5a) := by
      rintro ⟨least, most⟩
      rw [isBlank_of_range c (by omega)] at blank
      cases blank
    rw [lowerAscii_of_small c small, blank]

theorem eq_of_letters {α : Type} (f : Char → α)
    (letters : ∀ c, 0x41 ≤ c.toNat ∧ c.toNat ≤ 0x5a → f (lowerAscii c) = f c) (c : Char) : f (lowerAscii c) = f c := by
  by_cases capital : 0x41 ≤ c.toNat ∧ c.toNat ≤ 0x5a
  · exact letters c capital
  · rw [lowerAscii_of_small c capital]

theorem inRanges_lowerAscii (ranges : List (Nat × Nat))
    (both : ∀ i < 26, inRanges ranges (0x41 + i + 32) = inRanges ranges (0x41 + i)) (c : Char) :
    inRanges ranges (lowerAscii c).toNat = inRanges ranges c.toNat := by
  refine eq_of_letters (fun c => inRanges ranges c.toNat) (fun c capital => ?_) c
  have letter := both (c.toNat - 0x41) (by omega)
  rw [Nat.add_sub_cancel' capital.1] at letter
  rw [toNat_lowerAscii c capital, letter]

theorem isCased_lowerAscii (c : Char) : isCased (lowerAscii c) = isCased c :=
  inRanges_lowerAscii casedRanges (by decide +kernel) c

theorem isCaseIgnorable_lowerAscii (c : Char) : isCaseIgnorable (lowerAscii c) = isCaseIgnorable c :=
  inRanges_lowerAscii caseIgnorableRanges (by decide +kernel) c

theorem lowerChar_lowerAscii (c : Char) : lowerChar (lowerAscii c) = lowerChar c := by
  refine eq_of_letters lowerChar (fun c capital => ?_) c
  have point := toNat_lowerAscii c capital
  have again : lowerAscii (lowerAscii c) = lowerAscii c := lowerAscii_of_small _ (by omega)
  rw [lowerChar, if_pos (by omega), again, lowerChar, if_pos (by omega)]

theorem sigma_lowerAscii (c : Char) : (lowerAscii c == capitalSigma) = (c == capitalSigma) := by
  refine eq_of_letters (· == capitalSigma) (fun c capital => ?_) c
  have point := toNat_lowerAscii c capital
  rw [not_sigma_of_ascii _ (by omega), not_sigma_of_ascii _ (by omega)]

theorem meetsCased_map (cs : List Char) : meetsCased (cs.map lowerAscii) = meetsCased cs := by
  have alike : isCaseIgnorable ∘ lowerAscii = isCaseIgnorable := funext isCaseIgnorable_lowerAscii
  rw [meetsCased, meetsCased, List.dropWhile_map, alike]
  cases cs.dropWhile isCaseIgnorable with
  | nil => rfl
  | cons c rest => exact isCased_lowerAscii c

theorem lowerAfter_map (before cs : List Char) :
    lowerAfter (before.map lowerAscii) (cs.map lowerAscii) = lowerAfter before cs := by
  induction cs generalizing before with
  | nil => rfl
  | cons c rest ih =>
    have later := ih (c :: before)
    rw [List.map_cons] at later
    rw [List.map_cons, lowerAfter, lowerAfter, later, sigma_lowerAscii, lowerChar_lowerAscii, meetsCased_map,
      meetsCased_map]

theorem stripped_map (drop : Char → Bool) (f : Char → Char) (kept : ∀ c, drop (f c) = drop c) (cs : List Char) :
    stripped drop (cs.map f) = (stripped drop cs).map f := by
  have alike : drop ∘ f = drop := funext kept
  rw [stripped, dropEnd, List.dropWhile_map, alike, ← List.map_reverse, List.dropWhile_map, alike, ← List.map_reverse]
  rfl

def SameLetters (s t : String) : Prop := s.toList.map lowerAscii = t.toList.map lowerAscii

instance (s t : String) : Decidable (SameLetters s t) := inferInstanceAs (Decidable (_ = _))

theorem SameLetters.trim {s t : String} (same : SameLetters s t) : SameLetters (trim s) (trim t) := by
  unfold SameLetters at *
  rw [toList_trim, toList_trim, ← stripped_map isBlank lowerAscii isBlank_lowerAscii, same,
    stripped_map isBlank lowerAscii isBlank_lowerAscii]

theorem SameLetters.lowercase {s t : String} (same : SameLetters s t) : lowercase s = lowercase t := by
  unfold SameLetters at same
  apply String.toList_inj.mp
  rw [toList_lowercase, toList_lowercase, ← lowerAfter_map, same]
  exact lowerAfter_map [] t.toList

end UtilityCss.Text
