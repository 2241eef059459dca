import UtilityCss.Proofs.Conversion.Categories
import UtilityCss.Proofs.Conversion.Membership
import UtilityCss.Proofs.Property.Verdicts
import UtilityCss.Proofs.Report.Warning

namespace UtilityCss
open Text Css

theorem sortClasses_of_perm (screens xs ys sorted : List String) (same : xs.Perm ys)
    (returns : sortClasses screens xs = .ok sorted) : sortClasses screens ys = .ok sorted := by
  refine sortClasses_of_distinct screens xs ys sorted ?_ returns
  exact distinctClasses_perm xs ys fun name _ => by simp only [same.mem_iff]

theorem categoryStats_of_perm (declarations others : List Declaration) (names aliases : List String)
    (permuted : declarations.Perm others) (same : ∀ name, name ∈ names ↔ name ∈ aliases) :
    categoryStats declarations names = categoryStats others aliases := by
  have listed : ∀ name, names.contains name = aliases.contains name := by
    intro name
    rw [Bool.eq_iff_iff, List.contains_iff_mem, List.contains_iff_mem, same]
  unfold categoryStats
  simp only [listed, permuted.countP_eq]

namespace Conversion

theorem screenOrder_of_perm (ctx : Context) (screens : Entries String Int) (same : ctx.screens.Perm screens) :
    screenOrder { ctx with screens := screens } = screenOrder ctx := by
  let order : String × Int → String × Int → Ordering := compareLex (compareOn (·.2)) (compareOn (·.1))
  -- Ties of the minimum width are broken by the name, so the order of the table never decides.
  have determined : ∀ a b, (order a b).isLE = true → (order b a).isLE = true → a = b := by
    intro a b ab ba
    have tied : order a b = .eq := Std.OrientedCmp.isLE_antisymm ab ba
    simp only [order, compareLex_eq_eq, compareOn, Std.LawfulEqOrd.compare_eq_iff_eq] at tied
    exact Prod.ext tied.2 tied.1
  have arranged := mergeSort_of_perm (fun a b => (order a b).isLE) (fun _ _ _ => Std.TransCmp.isLE_trans)
    (isLE_total order) determined _ _ same
  unfold screenOrder
  rw [isEmpty_of_length _ _ same.length_eq]
  exact congrArg (fun sorted => if screens.isEmpty then defaultScreenNames else sorted.map Prod.fst) arranged.symm

-- What two conversions have in common that differ in the order of their warnings at most.
structure SameAnswer (one other : Conversion) : Prop where
  classes : other.classes = one.classes
  coverage : other.coverage = one.coverage
  warnings : other.warnings.Perm one.warnings

theorem assemble_of_perm (ctx other : Context) (declarations others : List Declaration)
    (contributions changed : List Contribution) (advice : List String) (conversion : Conversion)
    (screens : screenOrder other = screenOrder ctx) (permuted : declarations.Perm others)
    (contributed : contributions.Perm changed)
    (parts : Assembled ctx declarations contributions advice conversion) :
    ∃ answer, assemble other others changed advice = .ok answer ∧ SameAnswer conversion answer := by
  have matched : (changed.filter (·.isMatched)).length = (contributions.filter (·.isMatched)).length :=
    (contributed.filter _).length_eq.symm
  have total := permuted.length_eq
  have names (name : String) : name ∈ matchedNames contributions ↔ name ∈ matchedNames changed :=
    ((contributed.filter _).map _).mem_iff
  have collected : (warned contributions advice).Perm (warned changed advice) :=
    (contributed.flatMap_right _).append_right _
  refine ⟨⟨conversion.classes, (WarningDigest.of (warned changed advice)).warnings, conversion.coverage⟩, ?_, ?_⟩
  · rw [assemble_eq_ok_iff]
    exact {
      classes := by
        rw [screens]
        exact sortClasses_of_perm _ _ _ _ (contributed.flatMap_right _) parts.classes
      warnings := rfl
      matched := by rw [matched]; exact parts.matched
      total := by rw [← total]; exact parts.total
      percentage := by rw [matched, ← total]; exact parts.percentage
      nonArbitrary := parts.nonArbitrary
      categories := by
        rw [← categoryStats_of_perm declarations others _ _ permuted names]
        exact parts.categories
      counts := by
        rw [← WarningDigest.counts_of_perm _ _ collected]
        exact parts.counts }
  · refine ⟨rfl, rfl, ?_⟩
    rw [parts.warnings]
    exact WarningDigest.warnings_perm _ _ collected.symm

theorem contributions_of_perm (registry : Registry) (ctx other : Context)
    (declarations others : List Declaration) (permuted : declarations.Perm others)
    (alike : ∀ d ∈ declarations, registry.matchDeclaration other d.property d.value =
      registry.matchDeclaration ctx d.property d.value) :
    (declarations.map (Contribution.of registry ctx)).Perm (others.map (Contribution.of registry other)) := by
  have same : declarations.map (Contribution.of registry ctx) = declarations.map (Contribution.of registry other) := by
    apply List.map_congr_left
    intro d declared
    rw [Contribution.of_matching, Contribution.of_matching, alike d declared]
  rw [same]
  exact permuted.map _

-- A matcher is given the whole context. If screens change places, it may not give another match for that.
theorem ofDeclarations_of_perm (registry : Registry) (ctx : Context) (screens : Entries String Int)
    (declarations others : List Declaration) (conversion : Conversion)
    (permuted : declarations.Perm others) (reordered : ctx.screens.Perm screens)
    (alike : ctx.screens ≠ screens → ∀ d ∈ declarations,
      registry.matchDeclaration { ctx with screens := screens } d.property d.value =
        registry.matchDeclaration ctx d.property d.value)
    (returns : ofDeclarations registry ctx declarations = .ok conversion) :
    ∃ answer, ofDeclarations registry { ctx with screens := screens } others = .ok answer ∧
      SameAnswer conversion answer := by
  have unchanged : ∀ d ∈ declarations, registry.matchDeclaration { ctx with screens := screens } d.property d.value =
      registry.matchDeclaration ctx d.property d.value := by
    by_cases kept : ctx.screens = screens
    · intro d _
      rw [← kept]
    · exact alike kept
  exact assemble_of_perm ctx { ctx with screens := screens } declarations others _ _ [] conversion
    (screenOrder_of_perm ctx screens reordered) permuted
    (contributions_of_perm registry ctx _ declarations others permuted unchanged)
    (ofDeclarations_assembled registry ctx declarations conversion returns)

theorem ofDeclarations_of_shuffled :
    let registry : Registry := ("cursor", Property.keyword [("pointer", "cursor-pointer")]) :: Registry.standard
    let ctx : Context := ⟨none, none, .current, false, false, .standard, standardScreens, false⟩
    let gone : Declaration := ⟨"float", "left", []⟩
    let cleared : Declaration := ⟨"clear", "both", []⟩
    let pointer : Declaration := ⟨"cursor", "pointer", ["md"]⟩
    let shown : Declaration := ⟨"display", "block", ["sm"]⟩
    ∃ conversion answer,
      ofDeclarations registry ctx [gone, pointer, cleared, gone, shown] = .ok conversion ∧
      ofDeclarations registry { ctx with screens := standardScreens.reverse }
        [shown, cleared, pointer, gone, gone] = .ok answer ∧
      conversion.classes = ["sm:block", "md:cursor-pointer"] ∧
      conversion.warnings = ["No direct Tailwind equivalent for 'float: left' (2 occurrences)",
        "No direct Tailwind equivalent for 'clear: both'"] ∧
      SameAnswer conversion answer := by
  intro registry ctx gone cleared pointer shown
  have order : screenOrder ctx = ["sm", "md", "lg", "xl", "2xl"] := by
    unfold screenOrder
    rw [List.mergeSort_of_pairwise (by decide)]
    rfl
  have classes : sortClasses (screenOrder ctx)
      (produced ([gone, pointer, cleared, gone, shown].map (Contribution.of registry ctx))) =
        .ok ["sm:block", "md:cursor-pointer"] := by
    rw [order, sortClasses_eq_ok_iff, legible_iff_distinct]
    decide +kernel
  obtain ⟨conversion, returns⟩ := assemble_of_sorted ctx _ _ [] _
    (matched_part registry ctx [gone, pointer, cleared, gone, shown]) classes
  have parts := ofDeclarations_assembled registry ctx _ conversion returns
  have warnings : conversion.warnings =
      ["No direct Tailwind equivalent for 'float: left' (2 occurrences)",
        "No direct Tailwind equivalent for 'clear: both'"] := by
    rw [parts.warnings]
    decide +kernel
  have blind : ∀ entry ∈ registry, entry.2 { ctx with screens := standardScreens.reverse } = entry.2 ctx := by
    intro entry member
    rcases List.mem_cons.mp member with rfl | standard
    · dsimp only
      exact Property.keyword_blind _ _ _
    · exact Registry.standard_of_screens ctx _ entry standard
  have alike := registry.matchDeclaration_of_alike _ ctx blind
  have permuted : [gone, pointer, cleared, gone, shown].Perm [shown, cleared, pointer, gone, gone] := by
    decide
  obtain ⟨answer, again, same⟩ := ofDeclarations_of_perm registry ctx standardScreens.reverse _ _ conversion
    permuted (List.reverse_perm standardScreens).symm (fun _ d _ => by rw [alike]) returns
  exact ⟨conversion, answer, returns, again, Except.ok.inj (parts.classes.symm.trans classes), warnings, same⟩

theorem ofDeclarations_of_screen_reader :
    let first : Matcher := fun ctx _ => Match.single ("max-w-screen-" ++ (Entries.keys ctx.screens).headD "sm")
    let registry : Registry := [("max-width", first)]
    let ctx : Context := ⟨none, none, .current, false, false, .standard, [("sm", 640), ("md", 768)], false⟩
    let contained : Declaration := ⟨"max-width", "container", []⟩
    ∃ conversion answer,
      ctx.screens.Perm [("md", 768), ("sm", 640)] ∧ ofDeclarations registry ctx [contained] = .ok conversion ∧
      ofDeclarations registry { ctx with screens := [("md", 768), ("sm", 640)] } [contained] = .ok answer ∧
      conversion.classes = ["max-w-screen-sm"] ∧ answer.classes = ["max-w-screen-md"] ∧
      ¬ SameAnswer conversion answer := by
  intro first registry ctx contained
  have converted (screens : Entries String Int) (sorted : List String)
      (classes : sortClasses (screenOrder { ctx with screens := screens })
        (produced ([contained].map (Contribution.of registry { ctx with screens := screens }))) = .ok sorted) :
      ∃ conversion, ofDeclarations registry { ctx with screens := screens } [contained] = .ok conversion ∧
        conversion.classes = sorted := by
    obtain ⟨conversion, returns⟩ := assemble_of_sorted { ctx with screens := screens } _ _ [] sorted
      (matched_part registry { ctx with screens := screens } [contained]) classes
    have parts := ofDeclarations_assembled registry _ _ conversion returns
    exact ⟨conversion, returns, Except.ok.inj (parts.classes.symm.trans classes)⟩
  obtain ⟨conversion, returns, small⟩ := converted [("sm", 640), ("md", 768)] ["max-w-screen-sm"] (by
    rw [sortClasses_eq_ok_iff, legible_iff_distinct]
    decide +kernel)
  obtain ⟨answer, again, medium⟩ := converted [("md", 768), ("sm", 640)] ["max-w-screen-md"] (by
    rw [sortClasses_eq_ok_iff, legible_iff_distinct]
    decide +kernel)
  refine ⟨conversion, answer, by decide, returns, again, small, medium, fun same => ?_⟩
  have equal := same.classes
  rw [small, medium] at equal
  exact absurd equal (by decide)

end Conversion
end UtilityCss
