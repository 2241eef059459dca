import UtilityCss.Proofs.Conversion.Accounting
import UtilityCss.Proofs.Conversion.Composition
import UtilityCss.Proofs.Conversion.Policy
import UtilityCss.Proofs.Report.Digest

namespace UtilityCss
open Text Css

namespace WarningDigest

theorem countIn_own (warning : String) : countIn (.of warning) [warning] = 1 := by
  simp [countIn]

theorem countIn_beside (category : WarningCategory) (warning : String) (differs : category ≠ .of warning) :
    countIn category [warning] = 0 := by
  simpa [countIn] using differs.symm

end WarningDigest

namespace Conversion

def IsUniversal (selector : String) : Prop := trim selector = "" ∨ trim selector = "*"

instance (selector : String) : Decidable (IsUniversal selector) := inferInstanceAs (Decidable (_ ∨ _))

theorem advisories_of_universal (selector : String) (universal : IsUniversal selector) : advisories selector = [] :=
  if_pos universal

theorem advisories_of_special (selector : String) (special : ¬IsUniversal selector) :
    advisories selector = [selectorWarning (trim selector)] :=
  if_neg special

theorem ofRule_of_universal (registry : Registry) (ctx : Context) (rule : Rule)
    (universal : IsUniversal rule.selector) :
    ofRule registry ctx rule = ofDeclarations registry ctx rule.declarations := by
  rw [ofRule, advisories_of_universal rule.selector universal, ofDeclarations]

theorem assemble_of_advice (registry : Registry) (ctx : Context) (declarations : List Declaration)
    (advice other : List String) (conversion : Conversion)
    (returns : assemble ctx declarations (declarations.map (Contribution.of registry ctx)) advice = .ok conversion) :
    ∃ answer, assemble ctx declarations (declarations.map (Contribution.of registry ctx)) other = .ok answer := by
  have part := matched_part registry ctx declarations
  rw [assemble_returns_iff ctx declarations _ other part, ← assemble_returns_iff ctx declarations _ advice part]
  exact ⟨conversion, returns⟩

-- Advice changes the warnings and their counters, and nothing else.
structure SameButWarnings (plain advised : Conversion) : Prop where
  classes : advised.classes = plain.classes
  share : SameShare advised.coverage plain.coverage
  nonArbitrary : advised.coverage.nonArbitrary = plain.coverage.nonArbitrary

theorem sameButWarnings_of_assembled (registry : Registry) (ctx : Context) (declarations : List Declaration)
    (advice other : List String) (plain advised : Conversion)
    (one : Assembled ctx declarations (declarations.map (Contribution.of registry ctx)) other plain)
    (two : Assembled ctx declarations (declarations.map (Contribution.of registry ctx)) advice advised) :
    SameButWarnings plain advised := by
  have classes : advised.classes = plain.classes := Except.ok.inj (two.classes.symm.trans one.classes)
  refine ⟨classes, sameShare_of_found registry ctx ctx rfl declarations advice other advised plain two one, ?_⟩
  rw [two.nonArbitrary, one.nonArbitrary, classes]

-- The digests of the warnings with and without the advice. One counter counts it, and no other one does.
structure Advised (collected : List String) (advice : String) (plain advised : Conversion) : Prop where
  before : plain.warnings = (WarningDigest.of collected).warnings
  after : advised.warnings = (WarningDigest.of (collected ++ [advice])).warnings
  raised : ∃ category : WarningCategory, category.Takes advice ∧
    (∃ count, plain.warningCount? category = some count ∧ advised.warningCount? category = some (count + 1)) ∧
    ∀ beside, beside ≠ category → advised.warningCount? beside = plain.warningCount? beside

theorem advised_of_assembled (registry : Registry) (ctx : Context) (declarations : List Declaration)
    (advice : String) (plain advised : Conversion)
    (one : Assembled ctx declarations (declarations.map (Contribution.of registry ctx)) [] plain)
    (two : Assembled ctx declarations (declarations.map (Contribution.of registry ctx)) [advice] advised) :
    Advised (collected registry ctx declarations) advice plain advised := by
  have before (category : WarningCategory) := one.warningCount category
  have after (category : WarningCategory) := two.warningCount category
  simp only [warned_collected, List.append_nil, WarningDigest.countIn_append] at before after
  refine ⟨by rw [one.warnings, warned_eq_collected], by rw [two.warnings, warned_collected], .of advice,
    WarningCategory.takes_of advice, ⟨_, before _, ?_⟩, ?_⟩
  · rw [after, WarningDigest.countIn_own, Nat.cast_add, Nat.cast_one]
  · intro beside differs
    rw [after, before, WarningDigest.countIn_beside beside advice differs, Nat.add_zero]

theorem ofRule_advised (registry : Registry) (ctx : Context) (rule : Rule) (advised : Conversion)
    (returns : ofRule registry ctx rule = .ok advised) :
    ∃ plain, ofDeclarations registry ctx rule.declarations = .ok plain ∧ SameButWarnings plain advised ∧
      (IsUniversal rule.selector → advised = plain) ∧
      (¬IsUniversal rule.selector → Advised (collected registry ctx rule.declarations)
        (selectorWarning (trim rule.selector)) plain advised) := by
  obtain ⟨plain, alone⟩ := assemble_of_advice registry ctx rule.declarations _ [] advised returns
  have one := ofDeclarations_assembled registry ctx rule.declarations plain alone
  have two := ofRule_assembled registry ctx rule advised returns
  refine ⟨plain, alone, sameButWarnings_of_assembled registry ctx rule.declarations _ [] plain advised one two, ?_, ?_⟩
  · intro universal
    rw [ofRule_of_universal registry ctx rule universal] at returns
    exact Except.ok.inj (returns.symm.trans alone)
  · intro special
    rw [advisories_of_special rule.selector special] at two
    exact advised_of_assembled registry ctx rule.declarations _ plain advised one two

theorem ofRule_advised_of_phrase :
    let ctx : Context := ⟨none, none, .current, false, false, .standard, standardScreens, false⟩
    let declarations : List Declaration := [⟨"display", "block", []⟩, ⟨"float", "left", []⟩]
    let advice := "Selector '.Approximate' was converted but may need manual adjustment"
    ∃ plain advised everywhere, ofDeclarations .standard ctx declarations = .ok plain ∧
      ofRule .standard ctx ⟨" .Approximate\t", declarations⟩ = .ok advised ∧
      ofRule .standard ctx ⟨" * ", declarations⟩ = .ok everywhere ∧
      advised.warnings = ["No direct Tailwind equivalent for 'float: left'", advice] ∧
      WarningCategory.approximate.Takes advice ∧ SameButWarnings plain advised ∧
      Advised (collected .standard ctx declarations) advice plain advised ∧ everywhere = plain := by
  intro ctx declarations advice
  have warned : (ofRule .standard ctx ⟨" .Approximate\t", declarations⟩).map (·.warnings) =
      .ok ["No direct Tailwind equivalent for 'float: left'", advice] := by
    decide +kernel
  have silent : (ofRule .standard ctx ⟨" * ", declarations⟩).map (·.warnings.length) = .ok 1 := by decide +kernel
  obtain ⟨advised, special, warnings⟩ := (map_eq_ok_iff _ _ _).mp warned
  obtain ⟨everywhere, universal, _⟩ := (map_eq_ok_iff _ _ _).mp silent
  obtain ⟨plain, alone, same, _, adds⟩ := ofRule_advised .standard ctx _ advised special
  obtain ⟨other, again, _, nothing, _⟩ := ofRule_advised .standard ctx _ everywhere universal
  cases Except.ok.inj (again.symm.trans alone)
  have text : selectorWarning (trim " .Approximate\t") = advice := by decide +kernel
  rw [← text]
  exact ⟨plain, advised, everywhere, alone, special, universal, by rw [warnings, text], by decide +kernel, same,
    adds (by decide +kernel), nothing (by decide +kernel)⟩

end Conversion
end UtilityCss
