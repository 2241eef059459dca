import UtilityCss.Proofs.Conversion.Accounting
import UtilityCss.Proofs.Conversion.Sheet
import UtilityCss.Proofs.Property.Count
import UtilityCss.Proofs.Report.Comparison

namespace UtilityCss
open Text Css

namespace Conversion

theorem found_eq (registry : Registry) (steady : ∀ entry ∈ registry, Steady entry.2) (a b : Context)
    (d : Declaration) : found registry a d = found registry b d := by
  have same := Registry.matchDeclaration_length registry steady a b d.property d.value
  rw [found_matching, found_matching, Match.isMatch, Match.isMatch, isEmpty_of_length _ _ same]

-- The counters of a coverage that do not look at the classes themselves.
structure SameShare (one other : Coverage) : Prop where
  matched : one.matched = other.matched
  total : one.total = other.total
  percentage : one.percentage = other.percentage
  categories : one.categories = other.categories

theorem sameShare_of_found (registry : Registry) (a b : Context)
    (alike : found registry a = found registry b) (declarations : List Declaration)
    (advice other : List String) (left right : Conversion)
    (one : Assembled a declarations (declarations.map (Contribution.of registry a)) advice left)
    (two : Assembled b declarations (declarations.map (Contribution.of registry b)) other right) :
    SameShare left.coverage right.coverage := by
  have matched := one.matched
  have percentage := one.percentage
  have categories := one.categories
  rw [matched_count, alike, ← matched_count] at matched percentage
  rw [matchedNames_of, alike, ← matchedNames_of] at categories
  exact {
    matched := matched.trans two.matched.symm
    total := one.total.trans two.total.symm
    percentage := Except.ok.inj (percentage.symm.trans two.percentage)
    categories := Except.ok.inj (categories.symm.trans two.categories) }

theorem ofRule_assembled (registry : Registry) (ctx : Context) (rule : Rule) (conversion : Conversion)
    (returns : ofRule registry ctx rule = .ok conversion) :
    Assembled ctx rule.declarations (rule.declarations.map (Contribution.of registry ctx))
      (advisories rule.selector) conversion :=
  (assemble_eq_ok_iff ctx rule.declarations _ _ conversion).mp returns

theorem ofRule_percentage (registry : Registry) (ctx : Context) (rule : Rule) (conversion : Conversion)
    (returns : ofRule registry ctx rule = .ok conversion) :
    0 ≤ conversion.coverage.percentage ∧ conversion.coverage.percentage ≤ percentageLimit := by
  have share := (ofRule_assembled registry ctx rule conversion returns).percentage
  obtain ⟨rounded, known, within⟩ := percentage_returns _ _ (matched_part registry ctx rule.declarations)
  rw [known] at share
  rwa [← Except.ok.inj share]

end Conversion

namespace Sheet

theorem percentages_eq (registry : Registry) (a b : Context)
    (alike : Conversion.found registry a = Conversion.found registry b) (rules : List Rule)
    (left right : Sheet) (one : ofRules registry a rules = .ok left)
    (two : ofRules registry b rules = .ok right) :
    Comparison.percentages left.bySelector = Comparison.percentages right.bySelector := by
  refine foldlM_alongside (place registry a) (place registry b)
    (fun entries others => Comparison.percentages entries = Comparison.percentages others) ?_ rules [] _ [] _
    rfl (ofRules_run registry a rules left one) (ofRules_run registry b rules right two)
  intro rule entries others after later same first second
  obtain ⟨conversion, converted, rfl⟩ := (place_eq_ok_iff registry a entries after rule).mp first
  obtain ⟨other, elsewhere, rfl⟩ := (place_eq_ok_iff registry b others later rule).mp second
  have share := Conversion.sameShare_of_found registry a b alike rule.declarations _ _ conversion other
    (Conversion.ofRule_assembled registry a rule conversion converted)
    (Conversion.ofRule_assembled registry b rule other elsewhere)
  unfold Comparison.percentages at same ⊢
  rw [Entries.mapValues_put, Entries.mapValues_put, same, share.percentage]

end Sheet

-- Neither the theme nor the policy has a say in how many classes there are. So two contexts give the same
-- coverages, and a comparison of two runs shows none.
theorem coverage_of_every_context (a b : Context) :
    (∀ property value, (Registry.standard.matchDeclaration a property value).classes.length =
      (Registry.standard.matchDeclaration b property value).classes.length) ∧
    (∀ declarations left right, Conversion.ofDeclarations .standard a declarations = .ok left →
      Conversion.ofDeclarations .standard b declarations = .ok right →
        Conversion.SameShare left.coverage right.coverage) ∧
    ∀ rules left right, Sheet.ofRules .standard a rules = .ok left →
      Sheet.ofRules .standard b rules = .ok right →
        ∃ comparison, Comparison.of left.bySelector right.bySelector = .ok comparison ∧
          comparison.strictCoverage = comparison.approximateCoverage ∧
          (∀ rule ∈ rules, rule.selector ∈ comparison.selectors.map (·.selector)) ∧
          ∀ row ∈ comparison.selectors, row.strictCoverage = row.approximateCoverage := by
  -- All of it rests on one fact: which declarations find classes is the same in every context.
  have alike : Conversion.found .standard a = Conversion.found .standard b :=
    funext (Conversion.found_eq .standard Registry.standard_steady a b)
  refine ⟨Registry.matchDeclaration_length .standard Registry.standard_steady a b, ?_, ?_⟩
  · intro declarations left right one two
    exact Conversion.sameShare_of_found .standard a b alike declarations [] [] left right
      (Conversion.ofDeclarations_assembled .standard a declarations left one)
      (Conversion.ofDeclarations_assembled .standard b declarations right two)
  · intro rules left right one two
    have collects := Sheet.ofRules_collects .standard a rules left one
    have within : ∀ row ∈ left.bySelector, 0 ≤ row.2.coverage.percentage ∧
        row.2.coverage.percentage ≤ percentageLimit := by
      intro row member
      obtain ⟨rule, _, _, converted⟩ := collects.converted row member
      exact Conversion.ofRule_percentage .standard a rule row.2 converted
    obtain ⟨comparison, compared, averages, shown, rows⟩ := Comparison.of_percentages _ _ within
      (Sheet.percentages_eq .standard a b alike rules left right one two)
    refine ⟨comparison, compared, averages, ?_, rows⟩
    intro rule member
    rw [shown, List.mem_eraseDups, List.mem_append]
    exact .inl (collects.complete rule member)

theorem coverage_of_strict_and_approximate :
    let layer : Layer := { Layer.empty with spacing := ⟨[("3.5", "0.875rem"), ("4", "1rem")]⟩ }
    let policy (strict : Bool) : Context :=
      ⟨some layer, none, .current, strict, !strict, .standard, standardScreens, false⟩
    let rules : List Rule := [⟨".card", [⟨"margin", "15px", []⟩, ⟨"float", "left", []⟩]⟩]
    ∃ left right comparison, Sheet.ofRules .standard (policy true) rules = .ok left ∧
      Sheet.ofRules .standard (policy false) rules = .ok right ∧
      left.bySelector.map (·.2.classes) = [["m-[15px]"]] ∧
      right.bySelector.map (·.2.classes) = [["m-3.5"]] ∧
      Comparison.of left.bySelector right.bySelector = .ok comparison ∧
      comparison.strictCoverage = comparison.approximateCoverage ∧
      ".card" ∈ comparison.selectors.map (·.selector) ∧
      ∀ row ∈ comparison.selectors, row.strictCoverage = row.approximateCoverage := by
  intro layer policy rules
  have strict : (Sheet.ofRules .standard (policy true) rules).map
      (fun sheet => sheet.bySelector.map (·.2.classes)) = .ok [["m-[15px]"]] := by
    decide +kernel
  have near : (Sheet.ofRules .standard (policy false) rules).map
      (fun sheet => sheet.bySelector.map (·.2.classes)) = .ok [["m-3.5"]] := by
    decide +kernel
  obtain ⟨left, one, written⟩ := (map_eq_ok_iff _ _ _).mp strict
  obtain ⟨right, two, rounded⟩ := (map_eq_ok_iff _ _ _).mp near
  obtain ⟨_, _, compare⟩ := coverage_of_every_context (policy true) (policy false)
  obtain ⟨comparison, compared, averages, listed, rows⟩ := compare rules left right one two
  have card := listed ⟨".card", _⟩ List.mem_cons_self
  exact ⟨left, right, comparison, one, two, written, rounded, compared, averages, card, rows⟩

end UtilityCss
