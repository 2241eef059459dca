import UtilityCss.Proofs.Conversion.Assembly
import UtilityCss.Proofs.Report.Category

namespace UtilityCss
open Text Css

theorem Contribution.of_property (registry : Registry) (ctx : Context) (d : Declaration) :
    (Contribution.of registry ctx d).property = d.name := by
  unfold Contribution.of
  split
  · rfl
  · exact ofMatch_property d _

namespace Conversion

def found (registry : Registry) (ctx : Context) (d : Declaration) : Bool :=
  (Contribution.of registry ctx d).isMatched

theorem matched_count (registry : Registry) (ctx : Context) (declarations : List Declaration) :
    ((declarations.map (Contribution.of registry ctx)).filter (·.isMatched)).length =
      declarations.countP (found registry ctx) := by
  rw [← List.countP_eq_length_filter, List.countP_map]
  rfl

theorem matchedNames_of (registry : Registry) (ctx : Context) (declarations : List Declaration) :
    matchedNames (declarations.map (Contribution.of registry ctx)) =
      (declarations.filter (found registry ctx)).map Declaration.name := by
  rw [matchedNames, List.filter_map, List.map_map]
  apply List.map_congr_left
  intro d _
  exact Contribution.of_property registry ctx d

theorem mem_matchedNames (registry : Registry) (ctx : Context) (declarations : List Declaration)
    (name : String) : name ∈ matchedNames (declarations.map (Contribution.of registry ctx)) ↔
      ∃ d ∈ declarations, d.name = name ∧ found registry ctx d = true := by
  rw [matchedNames_of, List.mem_map]
  simp only [List.mem_filter, and_assoc, and_comm]

-- The counters of the categories count every declaration of a property that found classes anywhere in the
-- rule. They add up to the declarations that found some exactly when no property has both outcomes.
theorem categories_sum_iff (registry : Registry) (ctx : Context) (declarations : List Declaration)
    (conversion : Conversion) (returns : ofDeclarations registry ctx declarations = .ok conversion) :
    ∃ table, conversion.coverage.categories = some table ∧
      table.map Prod.fst = PropertyCategory.all.map PropertyCategory.text ∧
      (table.map fun row => row.2.matched).sum =
        declarations.countP (fun d => declarations.any fun e => e.name == d.name && found registry ctx e) ∧
      ((table.map fun row => row.2.matched).sum = conversion.coverage.matched ↔
        ∀ d ∈ declarations, ∀ e ∈ declarations, d.name = e.name →
          found registry ctx d = found registry ctx e) := by
  have parts := ofDeclarations_assembled registry ctx declarations conversion returns
  obtain ⟨table, rows, kept⟩ := parts.table
  let somewhere (d : Declaration) := declarations.any fun e => e.name == d.name && found registry ctx e
  have listed : ∀ d, (matchedNames (declarations.map (Contribution.of registry ctx))).contains d.name =
      somewhere d := by
    intro d
    rw [Bool.eq_iff_iff, List.contains_iff_mem, mem_matchedNames]
    simp [somewhere]
  have matched : conversion.coverage.matched = declarations.countP (found registry ctx) := by
    rw [parts.matched, matched_count]
  have sum : (table.map fun row => row.2.matched).sum = declarations.countP somewhere := by
    rw [categoryStats_matched_sum _ _ table rows]
    simp only [listed]
  have names := congrArg (List.map Prod.fst) (categoryTable_rows _ _ table rows)
  rw [List.map_map, List.map_map] at names
  refine ⟨table, kept, names, sum, ?_⟩
  -- One count is over a part of what the other is over, so they agree only if the two are the same.
  have within : ∀ d ∈ declarations, found registry ctx d = true → somewhere d = true := by
    intro d declared here
    simp only [somewhere, List.any_eq_true, Bool.and_eq_true, beq_iff_eq]
    exact ⟨d, declared, rfl, here⟩
  rw [sum, matched, eq_comm, Nat.cast_inj, countP_eq_iff _ _ declarations within]
  simp only [somewhere, List.any_eq_true, Bool.and_eq_true, beq_iff_eq]
  constructor
  · intro back d declared e other same
    apply Bool.eq_iff_iff.mpr
    exact ⟨fun here => back e other ⟨d, declared, same, here⟩,
      fun there => back d declared ⟨e, other, same.symm, there⟩⟩
  · rintro alike d declared ⟨e, other, same, there⟩
    rw [alike d declared e other same.symm]
    exact there

theorem categories_sum_of_alike :
    let ctx : Context := ⟨none, none, .current, false, false, .standard, standardScreens, false⟩
    let declarations : List Declaration :=
      [⟨"display", "block", []⟩, ⟨"float", "left", []⟩, ⟨" Display", "block", []⟩]
    ∃ conversion table, ofDeclarations .standard ctx declarations = .ok conversion ∧
      conversion.coverage.matched = 2 ∧ conversion.coverage.categories = some table ∧
      (table.map fun row => row.2.matched).sum = conversion.coverage.matched := by
  intro ctx declarations
  have counted : (ofDeclarations .standard ctx declarations).map (·.coverage.matched) = .ok 2 := by
    decide +kernel
  obtain ⟨conversion, returns, matched⟩ := (map_eq_ok_iff _ _ _).mp counted
  have alike : ∀ d ∈ declarations, ∀ e ∈ declarations, d.name = e.name →
      found .standard ctx d = found .standard ctx e := by
    decide +kernel
  obtain ⟨table, kept, _, _, exactly⟩ := categories_sum_iff .standard ctx declarations conversion returns
  exact ⟨conversion, table, returns, matched, kept, exactly.mpr alike⟩

theorem categories_sum_exceeds_matched :
    let ctx : Context := ⟨none, none, .current, false, false, .standard, standardScreens, false⟩
    (ofDeclarations .standard ctx [⟨"display", "block", []⟩, ⟨"display", "unheard of", []⟩]).map
      (fun conversion => (conversion.coverage.matched, conversion.coverage.categories.map fun table =>
        (table.map fun row => row.2.matched).sum)) = .ok (1, some 2) := by
  decide +kernel

end Conversion
end UtilityCss
