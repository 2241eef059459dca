import UtilityCss.Proofs.Conversion.Accounting
import UtilityCss.Proofs.Conversion.Composition
import UtilityCss.Proofs.Property.Warnings
import UtilityCss.Proofs.Text.Phrase

namespace UtilityCss
open Text Css

def WarningCategory.readsUnhandled (warning : String) : Bool :=
  !mentions "arbitrary value" warning && (mentions "no direct" warning || mentions "could not transform" warning)

theorem WarningCategory.of_noHandler (warning : String) :
    (of warning == noHandler) = readsUnhandled warning := by
  unfold of readsUnhandled mentions markers
  dsimp only
  simp only [List.any_cons, List.any_nil, Bool.or_false, List.find?_cons]
  cases contains "arbitrary value" (lowercase warning) with
  | true => rfl
  | false =>
    cases contains "no direct" (lowercase warning) || contains "could not transform" (lowercase warning) with
    | true => rfl
    | false =>
      cases contains "approximate" (lowercase warning) with
      | true => rfl
      | false =>
        cases contains "token-miss" (lowercase warning) || contains "token not found" (lowercase warning) with
        | true => rfl
        | false =>
          cases contains "v3-fallback" (lowercase warning) || contains "falling back to v3" (lowercase warning) with
          | true => rfl
          | false => rfl

def Css.Declaration.mentionsArbitrary (d : Declaration) : Bool :=
  mentions "arbitrary value" d.name || mentions "arbitrary value" (trim d.value)

theorem declaration_apart (lead property value : String) :
    lead ++ property ++ ": " ++ value = lead ++ (property ++ ": " ++ value) := by
  simp only [String.append_assoc]

-- A phrase is in a warning exactly if it is in its wording or in a text it quotes. It never reaches over a
-- quote.
def Worded (wording property value warning : String) : Prop :=
  ∀ phrase, Phrase phrase → mentions phrase warning =
    (mentions phrase wording || (mentions phrase property || mentions phrase value))

theorem worded_between_quotes (wording property value : String) :
    Worded wording property value (wording ++ "'" ++ property ++ ": " ++ value ++ "'") := by
  intro phrase plain
  rw [declaration_apart, mentions_quoted _ _ _ plain, mentions_labelled _ _ _ plain]

theorem noHandlerWarning_worded (property value : String) : Worded "No direct Tailwind equivalent for "
    property value (Contribution.noHandlerWarning property value) := by
  have opening : "No direct Tailwind equivalent for '" = "No direct Tailwind equivalent for " ++ "'" := by
    decide +kernel
  unfold Contribution.noHandlerWarning
  rw [opening]
  exact worded_between_quotes _ property value

theorem arbitraryWarning_worded (property value : String) : Worded "Used arbitrary value for "
    property value (Registry.arbitraryWarning property value) := by
  have opening : "Used arbitrary value for '" = "Used arbitrary value for " ++ "'" := by
    decide +kernel
  unfold Registry.arbitraryWarning
  rw [opening]
  exact worded_between_quotes _ property value

theorem notTransformedWarning_worded (property value : String) : Worded "Could not transform"
    property value (Contribution.notTransformedWarning property value) := by
  have opening : "Could not transform: " = "Could not transform" ++ ": " := by decide +kernel
  intro phrase plain
  unfold Contribution.notTransformedWarning
  rw [opening, declaration_apart, mentions_labelled _ _ _ plain, mentions_labelled _ _ _ plain]

namespace WarningCategory

theorem readsUnhandled_of_wording {wording property value warning : String}
    (worded : Worded wording property value warning) (silent : mentions "arbitrary value" wording = false)
    (said : mentions "no direct" wording = true ∨ mentions "could not transform" wording = true) :
    readsUnhandled warning = !(mentions "arbitrary value" property || mentions "arbitrary value" value) := by
  rw [readsUnhandled, worded "arbitrary value" (by decide), worded "no direct" (by decide),
    worded "could not transform" (by decide), silent, Bool.false_or]
  rcases said with direct | transform
  · rw [direct]
    simp only [Bool.true_or, Bool.and_true]
  · rw [transform]
    simp only [Bool.true_or, Bool.or_true, Bool.and_true]

theorem readsUnhandled_unhandledWarning (registry : Registry) (d : Declaration) :
    readsUnhandled (Contribution.unhandledWarning registry d) = !d.mentionsArbitrary := by
  unfold Contribution.unhandledWarning
  split
  · exact readsUnhandled_of_wording (noHandlerWarning_worded d.name (trim d.value)) (by decide +kernel)
      (.inl (by decide +kernel))
  · exact readsUnhandled_of_wording (notTransformedWarning_worded d.name (trim d.value)) (by decide +kernel)
      (.inr (by decide +kernel))

theorem readsUnhandled_arbitraryWarning (property value : String) :
    readsUnhandled (Registry.arbitraryWarning property value) = false := by
  have said : mentions "arbitrary value" "Used arbitrary value for " = true := by decide +kernel
  rw [readsUnhandled, arbitraryWarning_worded property value "arbitrary value" (by decide), said]
  rfl

end WarningCategory

namespace Conversion

theorem contributed_unhandled (ctx : Context) (d : Declaration) (missed : found .standard ctx d = false) :
    (Contribution.of .standard ctx d).warnings = [Contribution.unhandledWarning .standard d] := by
  have silent := (Registry.standard.matchDeclaration_reports Registry.standard_reporting ctx d.property d.value).1
  have empty : (Registry.standard.matchDeclaration ctx d.property d.value).classes = [] := by
    rw [found_matching] at missed
    simpa [Match.isMatch] using missed
  rw [contributed_warnings, missed, silent empty]
  rfl

theorem stray_of_verdict (ctx : Context) (d : Declaration) (handled : found .standard ctx d = true)
    (warning : String) (given : warning ∈ (Contribution.of .standard ctx d).warnings)
    (stray : WarningCategory.readsUnhandled warning = true) :
    ∃ scale asked, (resolve ctx scale asked).warning? = some warning := by
  have reports := (Registry.standard.matchDeclaration_reports Registry.standard_reporting ctx d.property d.value).2
  rw [contributed_warnings, handled, if_pos rfl, List.append_nil] at given
  rcases reports warning given with arbitrary | verdict
  · rw [arbitrary, WarningCategory.readsUnhandled_arbitraryWarning] at stray
    cases stray
  · exact verdict

theorem countIn_noHandler (warnings : List String) :
    WarningDigest.countIn .noHandler warnings = warnings.countP WarningCategory.readsUnhandled := by
  unfold WarningDigest.countIn
  simp only [WarningCategory.of_noHandler]

theorem noHandler_balance (ctx : Context) (declarations : List Declaration) :
    (collected .standard ctx declarations).countP WarningCategory.readsUnhandled +
        declarations.countP (fun d => !found .standard ctx d && d.mentionsArbitrary) =
      declarations.countP (fun d => !found .standard ctx d) +
        (collected .standard ctx (declarations.filter (found .standard ctx))).countP
          WarningCategory.readsUnhandled := by
  -- One declaration adds its own warnings to both sides if it found classes, and one warning to each if not.
  induction declarations with
  | nil => rfl
  | cons d rest ih =>
    rw [collected_cons, List.countP_append, List.countP_cons, List.countP_cons]
    cases outcome : found .standard ctx d with
    | true =>
      rw [List.filter_cons_of_pos outcome, collected_cons, List.countP_append]
      simp only [Bool.not_true, Bool.false_and, Bool.false_eq_true, if_false]
      omega
    | false =>
      rw [List.filter_cons_of_neg (Bool.eq_false_iff.mp outcome), contributed_unhandled ctx d outcome,
        List.countP_singleton, WarningCategory.readsUnhandled_unhandledWarning]
      cases d.mentionsArbitrary with
      | true =>
        simp only [Bool.not_true, Bool.not_false, Bool.and_self, Bool.false_eq_true, if_false, if_true]
        omega
      | false =>
        simp only [Bool.not_false, Bool.and_false, Bool.false_eq_true, if_false, if_true]
        omega

-- The counter is the number of the declarations without classes exactly if as many of them are put elsewhere as
-- warnings of the others are put here.
theorem noHandler_count_iff (ctx : Context) (declarations : List Declaration) (conversion : Conversion)
    (returns : ofDeclarations .standard ctx declarations = .ok conversion) :
    let hidden := declarations.countP fun d => !found .standard ctx d && d.mentionsArbitrary
    let strays := (collected .standard ctx (declarations.filter (found .standard ctx))).filter
      WarningCategory.readsUnhandled
    ∃ count, conversion.warningCount? .noHandler = some count ∧
      count + hidden = conversion.coverage.total - conversion.coverage.matched + strays.length ∧
      (count = conversion.coverage.total - conversion.coverage.matched ↔ hidden = strays.length) ∧
      ∀ warning ∈ strays, ∃ scale asked, (resolve ctx scale asked).warning? = some warning := by
  intro hidden strays
  have counted := (ofDeclarations_assembled .standard ctx declarations conversion returns).warningCount .noHandler
  rw [warned_eq_collected, countIn_noHandler] at counted
  have missed := unhandled_count .standard ctx declarations conversion returns
  have balance : (collected .standard ctx declarations).countP WarningCategory.readsUnhandled + hidden =
      declarations.countP (fun d => !found .standard ctx d) + strays.length :=
    (noHandler_balance ctx declarations).trans (congrArg _ List.countP_eq_length_filter)
  refine ⟨_, counted, ?_, ?_, ?_⟩
  · rw [missed]
    exact_mod_cast balance
  · rw [missed]
    omega
  · intro warning member
    obtain ⟨given, stray⟩ := List.mem_filter.mp member
    obtain ⟨d, declared, said⟩ := List.mem_flatMap.mp given
    exact stray_of_verdict ctx d (List.mem_filter.mp declared).2 warning said stray

theorem noHandler_count_of_both :
    let sizes : Layer := { Layer.empty with fontSize := ⟨[("base", "1rem")]⟩ }
    let ctx : Context := ⟨some sizes, none, .current, true, false, .standard, standardScreens, false⟩
    let declarations : List Declaration :=
      [⟨"content", "'Arbitrary value'", []⟩, ⟨"font-size", "no direct", []⟩, ⟨"float", "left", []⟩]
    ∃ conversion, ofDeclarations .standard ctx declarations = .ok conversion ∧
      conversion.warningCount? .noHandler = some (conversion.coverage.total - conversion.coverage.matched) := by
  intro sizes ctx declarations
  have counted : (ofDeclarations .standard ctx declarations).map (·.coverage.matched) = .ok 1 := by
    decide +kernel
  obtain ⟨conversion, returns, _⟩ := (map_eq_ok_iff _ _ _).mp counted
  obtain ⟨count, counter, _, exactly, _⟩ := noHandler_count_iff ctx declarations conversion returns
  have balanced : declarations.countP (fun d => !found .standard ctx d && d.mentionsArbitrary) =
      ((collected .standard ctx (declarations.filter (found .standard ctx))).filter
        WarningCategory.readsUnhandled).length := by
    decide +kernel
  rw [exactly.mpr balanced] at counter
  exact ⟨conversion, returns, counter⟩

theorem noHandler_count_misses :
    let sizes : Layer := { Layer.empty with fontSize := ⟨[("base", "1rem")]⟩ }
    let ctx : Context := ⟨some sizes, none, .current, true, false, .standard, standardScreens, false⟩
    let counters (d : Declaration) := (ofDeclarations .standard ctx [d]).map fun conversion =>
      (conversion.warningCount? .noHandler, conversion.coverage.total - conversion.coverage.matched)
    counters ⟨"content", "\x22arbitrary value\x22", []⟩ = .ok (some 0, 1) ∧
      counters ⟨"font-size", "no direct", []⟩ = .ok (some 1, 0) := by
  decide +kernel

end Conversion
end UtilityCss
