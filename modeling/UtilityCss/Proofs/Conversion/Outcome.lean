import UtilityCss.Conversion.Rule
import UtilityCss.Proofs.Class.Sorting
import UtilityCss.Proofs.Report.Coverage

namespace UtilityCss
open Text Css

namespace Conversion

def produced (contributions : List Contribution) : List String := contributions.flatMap (·.classes)

theorem assemble_of_sorted (ctx : Context) (declarations : List Declaration)
    (contributions : List Contribution) (advisories sorted : List String)
    (part : (contributions.filter (·.isMatched)).length ≤ declarations.length)
    (returns : sortClasses (screenOrder ctx) (produced contributions) = .ok sorted) :
    ∃ conversion, assemble ctx declarations contributions advisories = .ok conversion := by
  let digest := WarningDigest.of (contributions.flatMap (·.warnings) ++ advisories)
  obtain ⟨table, rows⟩ := categoryStats_returns declarations
    ((contributions.filter (·.isMatched)).map (·.property))
  obtain ⟨coverage, counted⟩ := Coverage.of_returns _ _ part (countNonArbitrary sorted) (some table)
    (some digest.counts)
  refine ⟨⟨sorted, digest.warnings, coverage⟩, ?_⟩
  unfold assemble
  rw [produced] at returns
  simp only [returns, rows]
  change (Coverage.of _ _ _ _ _).bind _ = _
  rw [counted]
  rfl

theorem assemble_of_fails (ctx : Context) (declarations : List Declaration)
    (contributions : List Contribution) (advisories : List String) (fault : Error)
    (fails : sortClasses (screenOrder ctx) (produced contributions) = .error fault) :
    assemble ctx declarations contributions advisories = .error fault := by
  unfold assemble
  rw [produced] at fails
  simp only [fails]
  rfl

theorem assemble_returns_iff (ctx : Context) (declarations : List Declaration)
    (contributions : List Contribution) (advisories : List String)
    (part : (contributions.filter (·.isMatched)).length ≤ declarations.length) :
    (∃ conversion, assemble ctx declarations contributions advisories = .ok conversion) ↔
      ∀ name ∈ produced contributions, Legible name := by
  rw [← sortClasses_returns_iff (screenOrder ctx)]
  constructor
  · rintro ⟨conversion, returns⟩
    cases sorting : sortClasses (screenOrder ctx) (produced contributions) with
    | error fault =>
      rw [assemble_of_fails ctx declarations contributions advisories fault sorting] at returns
      cases returns
    | ok sorted => exact ⟨sorted, rfl⟩
  · rintro ⟨sorted, sorting⟩
    exact assemble_of_sorted ctx declarations contributions advisories sorted part sorting

theorem assemble_fails (ctx : Context) (declarations : List Declaration)
    (contributions : List Contribution) (advisories : List String) (fault : Error)
    (part : (contributions.filter (·.isMatched)).length ≤ declarations.length)
    (fails : assemble ctx declarations contributions advisories = .error fault) : fault.OfNumeral := by
  cases sorting : sortClasses (screenOrder ctx) (produced contributions) with
  | error found =>
    rw [assemble_of_fails ctx declarations contributions advisories found sorting] at fails
    cases fails
    exact sortClasses_fails _ _ fault sorting
  | ok sorted =>
    obtain ⟨conversion, returns⟩ :=
      assemble_of_sorted ctx declarations contributions advisories sorted part sorting
    rw [returns] at fails
    cases fails

theorem matched_part (registry : Registry) (ctx : Context) (declarations : List Declaration) :
    ((declarations.map (Contribution.of registry ctx)).filter (·.isMatched)).length ≤
      declarations.length := by
  have kept := List.length_filter_le (·.isMatched) (declarations.map (Contribution.of registry ctx))
  rwa [List.length_map] at kept

theorem produced_legible_iff (registry : Registry) (ctx : Context) (declarations : List Declaration) :
    (∀ name ∈ produced (declarations.map (Contribution.of registry ctx)), Legible name) ↔
      ∀ d ∈ declarations, ∀ name ∈ (Contribution.of registry ctx d).classes, Legible name := by
  simp only [produced, List.flatMap_map, List.mem_flatMap]
  constructor
  · intro legible d declared name made
    exact legible name ⟨d, declared, made⟩
  · rintro legible name ⟨d, declared, made⟩
    exact legible d declared name made

-- Declarations convert unless a class that one of them contributes has a numeral in its base that cannot be
-- read, and nothing else ever fails.
theorem ofDeclarations_returns_iff (ctx : Context) (declarations : List Declaration) :
    ((∃ conversion, ofDeclarations .standard ctx declarations = .ok conversion) ↔
      ∀ d ∈ declarations, ∀ name ∈ (Contribution.of .standard ctx d).classes, Legible name) ∧
    ∀ fault, ofDeclarations .standard ctx declarations = .error fault → fault.OfNumeral := by
  have part := matched_part .standard ctx declarations
  constructor
  · rw [← produced_legible_iff]
    exact assemble_returns_iff ctx declarations _ [] part
  · intro fault fails
    exact assemble_fails ctx declarations _ [] fault part fails

theorem ofDeclarations_fails_at_superscript :
    let ctx : Context := ⟨none, none, .current, false, false, .standard, standardScreens, false⟩
    ofDeclarations .standard ctx [⟨"width", "1²3", []⟩] = .error (.unreadableNumeral 10 "²") := by
  decide +kernel

end Conversion
end UtilityCss
