import Mathlib.Algebra.Ring.Int.Defs
import UtilityCss.Proofs.Conversion.Assembly
import UtilityCss.Proofs.Report.Warning

namespace UtilityCss
open Text Css

namespace Conversion

def warningCount? (conversion : Conversion) (category : WarningCategory) : Option Int :=
  conversion.coverage.warnings.bind (Entries.find? category.text)

-- The classes of the parts are sorted again, and everything that is counted adds up.
structure JoinedFrom (screens : List String) (whole left right : Conversion) : Prop where
  classes : sortClasses screens (left.classes ++ right.classes) = .ok whole.classes
  matched : whole.coverage.matched = left.coverage.matched + right.coverage.matched
  total : whole.coverage.total = left.coverage.total + right.coverage.total
  warnings : ∀ category, ∃ m n, left.warningCount? category = some m ∧
    right.warningCount? category = some n ∧ whole.warningCount? category = some (m + n)

section
variable {ctx : Context} {ds es : List Declaration} {contributions others : List Contribution}
  {advisories : List String} {conversion left right whole : Conversion}

theorem Assembled.warningCount (parts : Assembled ctx ds contributions advisories conversion)
    (category : WarningCategory) : conversion.warningCount? category =
      some (WarningDigest.countIn category (warned contributions advisories) : Int) := by
  rw [warningCount?, parts.counts, Option.bind_some, WarningDigest.find_counts]

theorem warned_append (contributions others : List Contribution) :
    warned (contributions ++ others) [] = warned contributions [] ++ warned others [] := by
  simp only [warned, List.flatMap_append, List.append_nil]

theorem Assembled.joined (first : Assembled ctx ds contributions [] left)
    (second : Assembled ctx es others [] right)
    (both : Assembled ctx (ds ++ es) (contributions ++ others) [] whole) :
    JoinedFrom (screenOrder ctx) whole left right where
  classes := by
    have produces : produced (contributions ++ others) = produced contributions ++ produced others :=
      List.flatMap_append
    have sorts := both.classes
    rw [produces] at sorts
    exact sortClasses_append _ _ _ _ _ _ first.classes second.classes sorts
  matched := by
    rw [both.matched, first.matched, second.matched, List.filter_append, List.length_append, Nat.cast_add]
  total := by rw [both.total, first.total, second.total, List.length_append, Nat.cast_add]
  warnings := by
    intro category
    refine ⟨_, _, first.warningCount category, second.warningCount category, ?_⟩
    rw [both.warningCount category, warned_append, WarningDigest.countIn_append, Nat.cast_add]

end

theorem returns_of_subset (registry : Registry) (ctx : Context) (part declarations : List Declaration)
    (within : part ⊆ declarations) (whole : Conversion)
    (returns : ofDeclarations registry ctx declarations = .ok whole) :
    ∃ conversion, ofDeclarations registry ctx part = .ok conversion := by
  have legible := (assemble_returns_iff ctx declarations _ [] (matched_part registry ctx declarations)).mp
    ⟨whole, returns⟩
  apply (assemble_returns_iff ctx part _ [] (matched_part registry ctx part)).mpr
  rw [produced_legible_iff] at legible ⊢
  exact fun d declared => legible d (within declared)

theorem ofDeclarations_append (registry : Registry) (ctx : Context) (ds es : List Declaration)
    (whole : Conversion) (returns : ofDeclarations registry ctx (ds ++ es) = .ok whole) :
    ∃ left right, ofDeclarations registry ctx ds = .ok left ∧ ofDeclarations registry ctx es = .ok right ∧
      JoinedFrom (screenOrder ctx) whole left right := by
  obtain ⟨left, first⟩ := returns_of_subset registry ctx ds _ (List.subset_append_left ds es) whole returns
  obtain ⟨right, second⟩ := returns_of_subset registry ctx es _ (List.subset_append_right ds es) whole returns
  have both := ofDeclarations_assembled registry ctx _ whole returns
  rw [List.map_append] at both
  exact ⟨left, right, first, second, (ofDeclarations_assembled registry ctx ds left first).joined
    (ofDeclarations_assembled registry ctx es right second) both⟩

theorem ofDeclarations_append_shared :
    let ctx : Context := ⟨none, none, .current, false, false, .standard, [], false⟩
    let shown : Declaration := ⟨"display", "block", ["md", " md"]⟩
    let gone : Declaration := ⟨"float", "left", []⟩
    let wide : Declaration := ⟨"width", "240px", []⟩
    ∃ whole left right, ofDeclarations .standard ctx ([shown, gone] ++ [wide, gone, shown]) = .ok whole ∧
      whole.classes = ["w-[240px]", "md:block"] ∧ ofDeclarations .standard ctx [shown, gone] = .ok left ∧
      ofDeclarations .standard ctx [wide, gone, shown] = .ok right ∧
      JoinedFrom (screenOrder ctx) whole left right := by
  intro ctx shown gone wide
  have classes : sortClasses (screenOrder ctx)
      (produced (([shown, gone] ++ [wide, gone, shown]).map (Contribution.of .standard ctx))) =
        .ok ["w-[240px]", "md:block"] := by
    rw [sortClasses_eq_ok_iff, legible_iff_distinct]
    decide +kernel
  obtain ⟨whole, returns, names⟩ := ofDeclarations_of_sorted .standard ctx _ _ classes
  obtain ⟨left, right, first, second, joined⟩ :=
    ofDeclarations_append .standard ctx [shown, gone] [wide, gone, shown] whole returns
  exact ⟨whole, left, right, returns, names, first, second, joined⟩

end Conversion
end UtilityCss
