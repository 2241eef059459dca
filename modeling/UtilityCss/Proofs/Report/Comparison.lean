import Mathlib.Algebra.Order.BigOperators.Group.List
import UtilityCss.Proofs.Counting
import UtilityCss.Proofs.Entries
import UtilityCss.Proofs.Report.Coverage
import UtilityCss.Report.Comparison

namespace UtilityCss
open Binary64

namespace Comparison

def percentages (results : Entries String Conversion) : Entries String Int :=
  Entries.mapValues (fun conversion => conversion.coverage.percentage) results

theorem percentage_found (results : Entries String Conversion) (selector : String) :
    ((Entries.find? selector results).getD .empty).coverage.percentage =
      (Entries.find? selector (percentages results)).getD 0 := by
  unfold percentages
  rw [Entries.find?_mapValues]
  cases Entries.find? selector results with
  | none => rfl
  | some conversion => rfl

theorem row_percentages (strict approximate : Entries String Conversion) (selector : String) :
    (row strict approximate selector).strictCoverage =
        (Entries.find? selector (percentages strict)).getD 0 ∧
      (row strict approximate selector).approximateCoverage =
        (Entries.find? selector (percentages approximate)).getD 0 :=
  ⟨percentage_found strict selector, percentage_found approximate selector⟩

theorem averageCoverage_of_percentages (left right : Entries String Conversion)
    (same : percentages left = percentages right) : averageCoverage left = averageCoverage right := by
  have rates : left.map (·.2.coverage.percentage) = right.map (·.2.coverage.percentage) := by
    have values := congrArg (List.map Prod.snd) same
    unfold percentages Entries.mapValues at values
    rwa [List.map_map, List.map_map] at values
  have sizes : left.length = right.length := by
    have counted := congrArg List.length rates
    rwa [List.length_map, List.length_map] at counted
  unfold averageCoverage
  rw [rates, sizes, isEmpty_of_length left right sizes]

theorem sum_within (rates : List Int) (limit : Int) (within : ∀ rate ∈ rates, 0 ≤ rate ∧ rate ≤ limit) :
    0 ≤ Coverage.sum rates ∧ Coverage.sum rates ≤ rates.length * limit := by
  have total : Coverage.sum rates = rates.sum := List.sum_eq_foldl.symm
  rw [total]
  constructor
  · exact List.sum_nonneg fun rate member => (within rate member).1
  · have most := rates.sum_le_card_nsmul limit fun rate member => (within rate member).2
    rwa [nsmul_eq_mul] at most

theorem averageCoverage_returns (results : Entries String Conversion)
    (within : ∀ row ∈ results, 0 ≤ row.2.coverage.percentage ∧
      row.2.coverage.percentage ≤ percentageLimit) : ∃ mean, averageCoverage results = .ok mean := by
  unfold averageCoverage
  split
  · exact ⟨_, rfl⟩
  · have rates : ∀ rate ∈ results.map fun row => row.2.coverage.percentage,
        (0 : Int) ≤ rate ∧ rate ≤ percentageLimit := by
      intro rate member
      obtain ⟨row, known, rfl⟩ := List.mem_map.mp member
      exact within row known
    obtain ⟨least, most⟩ := sum_within _ _ rates
    rw [List.length_map] at most
    generalize Coverage.sum (results.map fun row => row.2.coverage.percentage) = total at *
    have sign : decide (total < 0) = false := by simpa using least
    have parts : total.natAbs ≤ results.length * percentageLimit := by
      rwa [← Int.ofNat_le, Int.natAbs_of_nonneg least, Int.natCast_mul]
    -- A mean within the limit is rounded to a finite number.
    have rounded := ofQuotient_upTo _ _ _ parts (by decide +kernel)
    obtain ⟨units, mean, _⟩ := rounded
    refine ⟨.finite false units, ?_⟩
    dsimp only
    rw [sign, mean]
    rfl

theorem of_percentages (strict approximate : Entries String Conversion)
    (within : ∀ row ∈ strict, 0 ≤ row.2.coverage.percentage ∧
      row.2.coverage.percentage ≤ percentageLimit)
    (same : percentages strict = percentages approximate) :
    ∃ comparison, of strict approximate = .ok comparison ∧
      comparison.strictCoverage = comparison.approximateCoverage ∧
      comparison.selectors.map (·.selector) =
        (Entries.keys strict ++ Entries.keys approximate).eraseDups ∧
      ∀ row ∈ comparison.selectors, row.strictCoverage = row.approximateCoverage := by
  obtain ⟨mean, first⟩ := averageCoverage_returns strict within
  have second := averageCoverage_of_percentages strict approximate same
  rw [first] at second
  unfold of
  rw [first, ← second]
  refine ⟨_, rfl, rfl, ?_, ?_⟩
  · dsimp only
    rw [List.map_map]
    exact List.map_id _
  · intro shown member
    obtain ⟨selector, _, rfl⟩ := List.mem_map.mp member
    obtain ⟨left, right⟩ := row_percentages strict approximate selector
    rw [left, right, same]

end Comparison
end UtilityCss
