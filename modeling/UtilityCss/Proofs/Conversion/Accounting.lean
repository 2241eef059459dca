import UtilityCss.Proofs.Conversion.Categories
import UtilityCss.Proofs.Conversion.Membership
import UtilityCss.Proofs.Report.Warning

namespace UtilityCss
open Text Css

namespace Conversion

-- All warnings of a run, repetitions included.
def collected (registry : Registry) (ctx : Context) (declarations : List Declaration) : List String :=
  declarations.flatMap fun d => (Contribution.of registry ctx d).warnings

-- Every declaration and every warning is counted once, whatever the registry answers.
structure Accounted (registry : Registry) (ctx : Context) (declarations : List Declaration)
    (conversion : Conversion) : Prop where
  total : conversion.coverage.total = declarations.length
  matched : conversion.coverage.matched = declarations.countP fun d =>
    (Entries.find? d.name registry).isSome && (registry.matchDeclaration ctx d.property d.value).isMatch
  categories : ∃ table, conversion.coverage.categories = some table ∧
    table.map Prod.fst = PropertyCategory.all.map PropertyCategory.text ∧
    (∀ row ∈ table, row.2.matched ≤ row.2.total) ∧
    (table.map fun row => row.2.total).sum = conversion.coverage.total
  counters : ∃ counts, conversion.coverage.warnings = some counts ∧
    counts.map Prod.fst = WarningCategory.all.map WarningCategory.text ∧
    (counts.map Prod.snd).sum = (collected registry ctx declarations).length
  unhandled : conversion.coverage.total - conversion.coverage.matched ≤
    (collected registry ctx declarations).length
  distinct : conversion.warnings.length = (collected registry ctx declarations).toFinset.card

theorem collected_cons (registry : Registry) (ctx : Context) (d : Declaration) (rest : List Declaration) :
    collected registry ctx (d :: rest) = (Contribution.of registry ctx d).warnings ++ collected registry ctx rest :=
  List.flatMap_cons

theorem warned_collected (registry : Registry) (ctx : Context) (declarations : List Declaration)
    (advice : List String) : warned (declarations.map (Contribution.of registry ctx)) advice =
      collected registry ctx declarations ++ advice := by
  rw [warned, List.flatMap_map]
  rfl

theorem warned_eq_collected (registry : Registry) (ctx : Context) (declarations : List Declaration) :
    warned (declarations.map (Contribution.of registry ctx)) [] = collected registry ctx declarations := by
  rw [warned_collected, List.append_nil]

theorem found_matching (registry : Registry) (ctx : Context) (d : Declaration) :
    found registry ctx d = (registry.matchDeclaration ctx d.property d.value).isMatch := by
  rw [found, Contribution.of]
  cases known : Entries.find? d.name registry with
  | none =>
    rw [Registry.matchDeclaration_unknown registry ctx d known]
    rfl
  | some matcher =>
    rw [Option.isNone_some, if_neg Bool.false_ne_true, Contribution.ofMatch_isMatched, Registry.matchDeclaration_name]

theorem contributed_warnings (registry : Registry) (ctx : Context) (d : Declaration) :
    (Contribution.of registry ctx d).warnings =
      (registry.matchDeclaration ctx d.property d.value).warnings ++
        if found registry ctx d then [] else [Contribution.unhandledWarning registry d] := by
  rw [found_matching, Contribution.of_matching]
  dsimp only
  split
  · rw [List.append_nil]
  · rfl

theorem found_registered (registry : Registry) (ctx : Context) (d : Declaration) :
    found registry ctx d = ((Entries.find? d.name registry).isSome &&
      (registry.matchDeclaration ctx d.property d.value).isMatch) := by
  rw [found_matching]
  cases known : Entries.find? d.name registry with
  | none =>
    rw [Registry.matchDeclaration_unknown registry ctx d known]
    rfl
  | some matcher => rfl

theorem matched_eq (registry : Registry) (ctx : Context) (declarations : List Declaration)
    (conversion : Conversion) (returns : ofDeclarations registry ctx declarations = .ok conversion) :
    conversion.coverage.matched = declarations.countP (found registry ctx) := by
  rw [(ofDeclarations_assembled registry ctx declarations conversion returns).matched, matched_count]

theorem unhandled_le (registry : Registry) (ctx : Context) (declarations : List Declaration) :
    declarations.countP (fun d => !found registry ctx d) ≤ (collected registry ctx declarations).length := by
  apply countP_le_length_flatMap
  intro d _ missed
  rw [Bool.not_eq_eq_eq_not, Bool.not_true] at missed
  rw [contributed_warnings, missed, if_neg Bool.false_ne_true]
  exact List.append_ne_nil_of_right_ne_nil _ (List.cons_ne_nil _ _)

theorem unhandled_count (registry : Registry) (ctx : Context) (declarations : List Declaration)
    (conversion : Conversion) (returns : ofDeclarations registry ctx declarations = .ok conversion) :
    conversion.coverage.total - conversion.coverage.matched =
      declarations.countP (fun d => !found registry ctx d) := by
  have total := (ofDeclarations_assembled registry ctx declarations conversion returns).total
  have whole : declarations.length =
      declarations.countP (found registry ctx) + declarations.countP fun d => !found registry ctx d := by
    rw [List.length_eq_countP_add_countP (found registry ctx)]
    simp only [decide_not, Bool.decide_eq_true]
  rw [total, matched_eq registry ctx declarations conversion returns, whole, Nat.cast_add]
  exact add_sub_cancel_left _ _

theorem ofDeclarations_accounted (registry : Registry) (ctx : Context) (declarations : List Declaration)
    (conversion : Conversion) (returns : ofDeclarations registry ctx declarations = .ok conversion) :
    Accounted registry ctx declarations conversion := by
  have parts := ofDeclarations_assembled registry ctx declarations conversion returns
  have counts := parts.counts
  have warnings := parts.warnings
  rw [warned_eq_collected] at counts warnings
  refine { total := parts.total, matched := ?_, categories := ?_, counters := ?_, unhandled := ?_, distinct := ?_ }
  · rw [matched_eq registry ctx declarations conversion returns, funext (found_registered registry ctx)]
  · obtain ⟨table, rows, kept⟩ := parts.table
    rw [parts.total]
    exact ⟨table, kept, categoryStats_names _ _ table rows, categoryStats_within _ _ table rows,
      categoryStats_total_sum _ _ table rows⟩
  · exact ⟨_, counts, rfl, WarningDigest.counts_sum _⟩
  · rw [unhandled_count registry ctx declarations conversion returns, Nat.cast_le]
    exact unhandled_le registry ctx declarations
  · rw [warnings, WarningDigest.length_warnings]

theorem ofDeclarations_accounted_repeated :
    let ctx : Context := ⟨none, none, .current, false, false, .standard, standardScreens, false⟩
    let registry : Registry := ("glow", fun _ _ => ⟨[], ["dim", "dim"]⟩) :: Registry.standard
    let declarations : List Declaration :=
      [⟨"float", "left", []⟩, ⟨" Glow", "x", []⟩, ⟨"display", "block", []⟩, ⟨"float", " left", []⟩]
    ∃ conversion, ofDeclarations registry ctx declarations = .ok conversion ∧
      conversion.coverage.matched = 1 ∧ (collected registry ctx declarations).length = 5 ∧
      Accounted registry ctx declarations conversion := by
  intro ctx registry declarations
  have counted : (ofDeclarations registry ctx declarations).map (·.coverage.matched) = .ok 1 := by
    decide +kernel
  obtain ⟨conversion, returns, matched⟩ := (map_eq_ok_iff _ _ _).mp counted
  have given : (collected registry ctx declarations).length = 5 := by decide +kernel
  exact ⟨conversion, returns, matched, given,
    ofDeclarations_accounted registry ctx declarations conversion returns⟩

end Conversion
end UtilityCss
