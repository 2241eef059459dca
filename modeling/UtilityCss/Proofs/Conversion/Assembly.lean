import UtilityCss.Proofs.Conversion.Outcome

namespace UtilityCss
open Text Css

namespace Conversion

def matchedNames (contributions : List Contribution) : List String :=
  (contributions.filter (·.isMatched)).map (·.property)

def warned (contributions : List Contribution) (advisories : List String) : List String :=
  contributions.flatMap (·.warnings) ++ advisories

-- What a conversion consists of. Each part is computed from the contributions alone, so it can be studied by
-- itself.
structure Assembled (ctx : Context) (declarations : List Declaration) (contributions : List Contribution)
    (advisories : List String) (conversion : Conversion) : Prop where
  classes : sortClasses (screenOrder ctx) (produced contributions) = .ok conversion.classes
  warnings : conversion.warnings = (WarningDigest.of (warned contributions advisories)).warnings
  matched : conversion.coverage.matched = (contributions.filter (·.isMatched)).length
  total : conversion.coverage.total = declarations.length
  percentage : UtilityCss.percentage (contributions.filter (·.isMatched)).length declarations.length =
    .ok conversion.coverage.percentage
  nonArbitrary : conversion.coverage.nonArbitrary = countNonArbitrary conversion.classes
  categories : (categoryStats declarations (matchedNames contributions)).map some =
    .ok conversion.coverage.categories
  counts : conversion.coverage.warnings = some (WarningDigest.of (warned contributions advisories)).counts

theorem assemble_eq_ok_iff (ctx : Context) (declarations : List Declaration)
    (contributions : List Contribution) (advisories : List String) (conversion : Conversion) :
    assemble ctx declarations contributions advisories = .ok conversion ↔
      Assembled ctx declarations contributions advisories conversion := by
  constructor
  · intro returns
    unfold assemble at returns
    simp only [bind_eq_ok_iff] at returns
    obtain ⟨classes, sorted, table, rows, coverage, counted, made⟩ := returns
    simp only [Coverage.of, bind_eq_ok_iff] at counted
    obtain ⟨rounded, share, counters⟩ := counted
    cases counters
    cases made
    exact ⟨sorted, rfl, rfl, rfl, share, rfl, by rw [matchedNames, rows]; rfl, rfl⟩
  · rintro ⟨sorted, warnings, matched, total, share, nonArbitrary, categories, counts⟩
    obtain ⟨classes, texts, coverage⟩ := conversion
    obtain ⟨_, _, rounded, _, _, _⟩ := coverage
    dsimp only at *
    subst warnings matched total nonArbitrary counts
    obtain ⟨table, rows, kept⟩ := (map_eq_ok_iff some _ _).mp categories
    subst kept
    unfold assemble
    simp only [bind_eq_ok_iff, Coverage.of]
    exact ⟨classes, sorted, table, rows, _, ⟨rounded, share, rfl⟩, rfl⟩

theorem Assembled.table {ctx : Context} {declarations : List Declaration} {contributions : List Contribution}
    {advisories : List String} {conversion : Conversion}
    (parts : Assembled ctx declarations contributions advisories conversion) :
    ∃ table, categoryStats declarations (matchedNames contributions) = .ok table ∧
      conversion.coverage.categories = some table := by
  obtain ⟨table, rows, kept⟩ := (map_eq_ok_iff some _ _).mp parts.categories
  exact ⟨table, rows, kept.symm⟩

theorem ofDeclarations_assembled (registry : Registry) (ctx : Context) (declarations : List Declaration)
    (conversion : Conversion) (returns : ofDeclarations registry ctx declarations = .ok conversion) :
    Assembled ctx declarations (declarations.map (Contribution.of registry ctx)) [] conversion :=
  (assemble_eq_ok_iff ctx declarations _ [] conversion).mp returns

theorem ofDeclarations_of_sorted (registry : Registry) (ctx : Context) (declarations : List Declaration)
    (sorted : List String)
    (sorts : sortClasses (screenOrder ctx) (produced (declarations.map (Contribution.of registry ctx))) =
      .ok sorted) :
    ∃ conversion, ofDeclarations registry ctx declarations = .ok conversion ∧ conversion.classes = sorted := by
  obtain ⟨conversion, returns⟩ :=
    assemble_of_sorted ctx declarations _ [] sorted (matched_part registry ctx declarations) sorts
  have parts := ofDeclarations_assembled registry ctx declarations conversion returns
  exact ⟨conversion, returns, Except.ok.inj (parts.classes.symm.trans sorts)⟩

end Conversion
end UtilityCss
