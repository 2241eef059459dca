import UtilityCss.Proofs.Number.Rounding
import UtilityCss.Proofs.Traversal
import UtilityCss.Report.Coverage

namespace UtilityCss
open Binary64

theorem hundred_upTo : UpTo 100 100 := ⟨100 * one, by decide +kernel, Nat.le_refl _⟩

theorem half_upTo : UpTo 1 (ofQuotient false 1 2) := ⟨twoTo 1073, by decide +kernel, by decide +kernel⟩

theorem ofQuotient_upTo (num den bound : Nat) (within : num ≤ den * bound)
    (room : 2 * bound + 1 < twoTo 1024) : UpTo (2 * bound + 1) (ofQuotient false num den) := by
  apply ofUnits_upTo _ _ bound ?_ room
  apply Nat.div_le_of_le_mul
  calc num * one
      ≤ den * bound * one := Nat.mul_le_mul_right one within
    _ = den * (bound * one) := Nat.mul_assoc _ _ _

-- What the roundings on the way from a share to its percentage can make of it at most.
def percentageLimit : Nat := 1205

theorem percentage_returns (matched total : Nat) (part : matched ≤ total) :
    ∃ rounded, percentage matched total = .ok rounded ∧ 0 ≤ rounded ∧ rounded ≤ percentageLimit := by
  by_cases filled : 0 < total
  · have share := ofQuotient_upTo matched total 1 (by rwa [Nat.mul_one]) (by decide +kernel)
    have scaled := mul_upTo _ _ 3 100 share hundred_upTo (by decide +kernel)
    obtain ⟨units, shifted, small⟩ := add_upTo _ _ 601 1 scaled half_upTo (by decide +kernel)
    obtain ⟨parts, ratio, _⟩ := share
    have reached : 2 * (601 + 1) + 1 = percentageLimit := rfl
    have few : units / one ≤ percentageLimit := by
      apply Nat.div_le_of_le_mul
      rwa [reached, Nat.mul_comm] at small
    have some : ¬(total : Int) ≤ 0 := by omega
    have sign : decide ((matched : Int) < 0) = false := by simp
    refine ⟨Int.ofNat (units / one), ?_, Int.natCast_nonneg _, ?_⟩
    · simp only [percentage, some, if_false, sign, Int.natAbs_natCast, shifted]
      rw [ratio]
      rfl
    · exact Int.ofNat_le.mpr few
  · refine ⟨0, ?_, Int.le_refl 0, Int.natCast_nonneg _⟩
    have none : (total : Int) ≤ 0 := by omega
    simp only [percentage, none, if_true]

theorem CategoryStats.of_returns (matched total : Nat) (part : matched ≤ total) :
    ∃ stats, CategoryStats.of matched total = .ok stats := by
  obtain ⟨rounded, share, _⟩ := percentage_returns matched total part
  refine ⟨⟨matched, total, rounded⟩, ?_⟩
  rw [CategoryStats.of, share]
  rfl

theorem categoryTable_returns (matched total : PropertyCategory → Int)
    (each : ∀ category, ∃ stats, CategoryStats.of (matched category) (total category) = .ok stats) :
    ∃ table, categoryTable matched total = .ok table := by
  apply mapM_returns
  intro category _
  obtain ⟨stats, row⟩ := each category
  refine ⟨(category.text, stats), ?_⟩
  rw [row]
  rfl

theorem categoryStats_returns (declarations : List Css.Declaration) (names : List String) :
    ∃ table, categoryStats declarations names = .ok table := by
  apply categoryTable_returns
  intro category
  apply CategoryStats.of_returns
  apply List.countP_mono_left
  intro d _ both
  exact (Bool.and_eq_true_iff.mp both).1

theorem Coverage.of_returns (matched total : Nat) (part : matched ≤ total) (nonArbitrary : Int)
    (categories : Option (Entries String CategoryStats)) (warnings : Option (Entries String Int)) :
    ∃ coverage, Coverage.of matched total nonArbitrary categories warnings = .ok coverage := by
  obtain ⟨rounded, share, _⟩ := percentage_returns matched total part
  refine ⟨⟨matched, total, rounded, nonArbitrary, categories, warnings⟩, ?_⟩
  rw [Coverage.of, share]
  rfl

end UtilityCss
