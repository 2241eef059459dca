import Mathlib.Algebra.Order.BigOperators.Group.List
import UtilityCss.Proofs.Report.Merging
import UtilityCss.Report.Summary

namespace UtilityCss

theorem percentage_of_part (matched total : Int) (least : 0 ≤ matched) (most : matched ≤ total) :
    ∃ rounded, percentage matched total = .ok rounded := by
  lift matched to ℕ using least
  lift total to ℕ using Int.le_trans (Int.natCast_nonneg matched) most
  obtain ⟨rounded, share, _⟩ := percentage_returns matched total (Int.ofNat_le.mp most)
  exact ⟨rounded, share⟩

theorem CategoryStats.of_part (matched total : Int) (least : 0 ≤ matched) (most : matched ≤ total) :
    ∃ stats, CategoryStats.of matched total = .ok stats := by
  obtain ⟨rounded, share⟩ := percentage_of_part matched total least most
  refine ⟨⟨matched, total, rounded⟩, ?_⟩
  rw [CategoryStats.of, share]
  rfl

namespace Coverage

def Within (part whole : Counter) (coverage : Coverage) : Prop :=
  0 ≤ part.read coverage ∧ part.read coverage ≤ whole.read coverage

-- Sums keep this, since they keep each of the inequalities.
structure Balanced (coverage : Coverage) : Prop where
  whole : Within .matched .total coverage
  categories : ∀ category, Within (.matchedIn category) (.totalIn category) coverage

theorem sum_within (part whole : Counter) (coverages : List Coverage)
    (each : ∀ coverage ∈ coverages, Within part whole coverage) :
    0 ≤ part.sum coverages ∧ part.sum coverages ≤ whole.sum coverages := by
  constructor
  · apply List.sum_nonneg
    intro number member
    obtain ⟨coverage, known, rfl⟩ := List.mem_map.mp member
    exact (each coverage known).1
  · exact List.sum_le_sum fun coverage known => (each coverage known).2

theorem merge_returns (coverages : List Coverage) (balanced : ∀ coverage ∈ coverages, Balanced coverage) :
    ∃ whole, merge coverages = .ok whole := by
  have sums (counter : Counter) : Coverage.sum (coverages.map counter.read) = counter.sum coverages := sum_eq _
  have rows : ∃ table, mergeCategories (coverages.map (·.categories)) = .ok table := by
    apply categoryTable_returns
    intro category
    obtain ⟨least, most⟩ := sum_within (.matchedIn category) (.totalIn category) coverages
      fun coverage known => (balanced coverage known).categories category
    simp only [← sums] at least most
    rw [List.map_map, List.map_map]
    exact CategoryStats.of_part _ _ least most
  obtain ⟨table, rows⟩ := rows
  obtain ⟨least, most⟩ := sum_within .matched .total coverages fun coverage known => (balanced coverage known).whole
  simp only [← sums] at least most
  obtain ⟨rounded, share⟩ := percentage_of_part _ _ least most
  unfold merge
  simp only [bind_eq_ok_iff, Coverage.of]
  exact ⟨_, table, rows, rounded, share, rfl⟩

end Coverage

namespace Summary

def coverage (summary : Summary) : Coverage :=
  ⟨summary.matched, summary.total, summary.percentage, summary.nonArbitrary, some summary.categories,
    some summary.warningCounts⟩

theorem of_coverage (conversions : List Conversion)
    (counted : ∀ conversion ∈ conversions, ∃ counts, conversion.coverage.warnings = some counts) :
    (Summary.of conversions).map coverage = Coverage.merge (conversions.map (·.coverage)) := by
  have own : conversions.map (fun conversion => some conversion.warningCounts) =
      (conversions.map (·.coverage)).map (·.warnings) := by
    rw [List.map_map]
    apply List.map_congr_left
    intro conversion known
    obtain ⟨counts, here⟩ := counted conversion known
    unfold Conversion.warningCounts
    rw [here, Function.comp_apply, here]
  unfold Summary.of
  rw [own]
  cases merged : Coverage.merge (conversions.map (·.coverage)) with
  | error fault => rfl
  | ok whole =>
    have parts := Coverage.merge_parts _ whole merged
    obtain ⟨table, _, kept⟩ := (map_eq_ok_iff some _ _).mp parts.categories
    obtain ⟨matched, total, rounded, nonArbitrary, categories, warnings⟩ := whole
    have counts := parts.warnings
    subst kept counts
    rfl

end Summary
end UtilityCss
