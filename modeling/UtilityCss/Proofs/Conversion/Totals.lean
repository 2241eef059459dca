import UtilityCss.Proofs.Conversion.Policy
import UtilityCss.Proofs.Report.Summary

namespace UtilityCss
open Css

namespace Conversion

theorem ofRule_within_categories (registry : Registry) (ctx : Context) (rule : Rule) (conversion : Conversion)
    (returns : ofRule registry ctx rule = .ok conversion) (category : PropertyCategory) :
    Coverage.Within (.matchedIn category) (.totalIn category) conversion.coverage := by
  obtain ⟨table, rows, kept⟩ := (ofRule_assembled registry ctx rule conversion returns).table
  obtain ⟨matched, total⟩ := Coverage.categoryEntry_of_table _ _ table rows category
  unfold Coverage.Within Coverage.Counter.read
  dsimp only
  rw [kept, matched, total, Nat.cast_le]
  refine ⟨Int.natCast_nonneg _, List.countP_mono_left ?_⟩
  intro d _ both
  exact (Bool.and_eq_true_iff.mp both).1

theorem ofRule_balanced (registry : Registry) (ctx : Context) (rule : Rule) (conversion : Conversion)
    (returns : ofRule registry ctx rule = .ok conversion) : conversion.coverage.Balanced := by
  have parts := ofRule_assembled registry ctx rule conversion returns
  constructor
  · unfold Coverage.Within Coverage.Counter.read
    dsimp only
    rw [parts.matched, parts.total]
    exact ⟨Int.natCast_nonneg _, Nat.cast_le.mpr (matched_part registry ctx rule.declarations)⟩
  · exact ofRule_within_categories registry ctx rule conversion returns

end Conversion

namespace Sheet

def coverages (sheet : Sheet) : List Coverage := sheet.bySelector.map (·.2.coverage)

-- What the report on a sheet counts: the sums over its entries, as a merge of their coverages has them.
structure Reports (sheet : Sheet) (summary : Summary) : Prop where
  merged : Coverage.merge sheet.coverages = .ok summary.coverage
  sums : ∀ counter : Coverage.Counter, counter.read summary.coverage = counter.sum sheet.coverages

theorem summary_coverage (registry : Registry) (ctx : Context) (rules : List Rule) (sheet : Sheet)
    (returns : ofRules registry ctx rules = .ok sheet) :
    sheet.summary.map Summary.coverage = Coverage.merge sheet.coverages := by
  have collects := ofRules_collects registry ctx rules sheet returns
  have shown : sheet.coverages = (sheet.bySelector.map (·.2)).map (·.coverage) := (List.map_map ..).symm
  rw [shown]
  apply Summary.of_coverage
  intro conversion member
  obtain ⟨row, known, rfl⟩ := List.mem_map.mp member
  obtain ⟨rule, _, _, converted⟩ := collects.converted row known
  exact ⟨_, (Conversion.ofRule_assembled registry ctx rule row.2 converted).counts⟩

theorem summary_reports (registry : Registry) (ctx : Context) (rules : List Rule) (sheet : Sheet)
    (returns : ofRules registry ctx rules = .ok sheet) :
    ∃ summary, sheet.summary = .ok summary ∧ sheet.Reports summary := by
  have collects := ofRules_collects registry ctx rules sheet returns
  have balanced : ∀ coverage ∈ sheet.coverages, coverage.Balanced := by
    intro coverage member
    obtain ⟨row, known, rfl⟩ := List.mem_map.mp member
    obtain ⟨rule, _, _, converted⟩ := collects.converted row known
    exact Conversion.ofRule_balanced registry ctx rule row.2 converted
  obtain ⟨whole, merged⟩ := Coverage.merge_returns sheet.coverages balanced
  have counted := summary_coverage registry ctx rules sheet returns
  rw [merged] at counted
  obtain ⟨summary, made, rfl⟩ := (map_eq_ok_iff _ _ _).mp counted
  exact ⟨summary, made, merged, Coverage.merge_counter sheet.coverages summary.coverage merged⟩

theorem lastRule?_eq_some_iff (selector : String) (rules : List Rule) (rule : Rule)
    (distinct : (rules.map (·.selector)).Nodup) :
    lastRule? selector rules = some rule ↔ rule ∈ rules ∧ rule.selector = selector := by
  refine ⟨lastRule?_found selector rules rule, ?_⟩
  rintro ⟨member, rfl⟩
  have some : (lastRule? rule.selector rules).isSome := by
    rw [lastRule?, List.findRev?_eq_find?_reverse, List.find?_isSome]
    exact ⟨rule, List.mem_reverse.mpr member, BEq.rfl⟩
  obtain ⟨other, found⟩ := Option.isSome_iff_exists.mp some
  obtain ⟨listed, same⟩ := lastRule?_found rule.selector rules other found
  rw [found, List.inj_on_of_nodup_map distinct listed member same]

theorem lastRule?_of_perm (selector : String) (rules others : List Rule) (same : rules.Perm others)
    (distinct : (rules.map (·.selector)).Nodup) : lastRule? selector rules = lastRule? selector others := by
  have apart : (others.map (·.selector)).Nodup := (same.map _).nodup_iff.mp distinct
  apply Option.ext
  intro rule
  rw [lastRule?_eq_some_iff selector rules rule distinct, lastRule?_eq_some_iff selector others rule apart,
    same.mem_iff]

theorem find?_of_lastRules (registry : Registry) (ctx : Context) (rules others : List Rule)
    (entries rows : Entries String Conversion) (one : LastWins registry ctx rules entries)
    (two : LastWins registry ctx others rows) (selector : String)
    (same : lastRule? selector rules = lastRule? selector others) :
    Entries.find? selector entries = Entries.find? selector rows := by
  apply Option.map_injective fun left right (alike : Except.ok left = Except.ok right) => Except.ok.inj alike
  rw [one.conversions, two.conversions, same]

structure SameResults (sheet other : Sheet) : Prop where
  conversions : ∀ selector, other.conversion selector = sheet.conversion selector
  counters : other.summary.map Summary.coverage = sheet.summary.map Summary.coverage

theorem sameResults_of_perm (registry : Registry) (ctx : Context) (rules others : List Rule)
    (sheet other : Sheet) (one : ofRules registry ctx rules = .ok sheet)
    (two : ofRules registry ctx others = .ok other) (same : rules.Perm others)
    (distinct : (rules.map (·.selector)).Nodup) : sheet.SameResults other := by
  have left := ofRules_lastWins registry ctx rules sheet one
  have right := ofRules_lastWins registry ctx others other two
  have lookups (selector : String) :
      Entries.find? selector sheet.bySelector = Entries.find? selector other.bySelector :=
    find?_of_lastRules registry ctx rules others _ _ left right selector
      (lastRule?_of_perm selector rules others same distinct)
  constructor
  · intro selector
    unfold conversion
    rw [lookups]
  · have entries := Entries.perm_of_find? _ _ left.distinct right.distinct lookups
    rw [summary_coverage registry ctx rules sheet one, summary_coverage registry ctx others other two]
    apply Coverage.merge_of_sums
    intro counter
    exact (counter.sum_of_perm _ _ (entries.map _)).symm

theorem ofRules_of_perm (registry : Registry) (ctx : Context) (rules others : List Rule) (sheet : Sheet)
    (returns : ofRules registry ctx rules = .ok sheet) (same : rules.Perm others) :
    ∃ other, ofRules registry ctx others = .ok other := by
  rw [ofRules_returns_iff]
  intro rule member
  exact (ofRules_returns_iff registry ctx rules).mp ⟨sheet, returns⟩ rule (same.mem_iff.mpr member)

theorem ofRules_totals (registry : Registry) (ctx : Context) (rules : List Rule) (sheet : Sheet)
    (returns : ofRules registry ctx rules = .ok sheet) :
    LastWins registry ctx rules sheet.bySelector ∧
      (∃ summary, sheet.summary = .ok summary ∧ sheet.Reports summary) ∧
      ∀ others, rules.Perm others → (rules.map (·.selector)).Nodup →
        ∃ other, ofRules registry ctx others = .ok other ∧ sheet.SameResults other := by
  refine ⟨ofRules_lastWins registry ctx rules sheet returns, summary_reports registry ctx rules sheet returns, ?_⟩
  intro others same distinct
  obtain ⟨other, made⟩ := ofRules_of_perm registry ctx rules others sheet returns same
  exact ⟨other, made, sameResults_of_perm registry ctx rules others sheet other returns made same distinct⟩

theorem ofRules_totals_again_and_reversed :
    let ctx : Context := ⟨none, none, .current, false, false, .standard, standardScreens, false⟩
    let card : Rule := ⟨".card", [⟨"display", "block", []⟩, ⟨"float", "left", []⟩]⟩
    let menu : Rule := ⟨".menu", [⟨"display", "flex", []⟩]⟩
    let late : Rule := ⟨".card", [⟨"display", "grid", []⟩]⟩
    (∃ sheet summary, ofRules .standard ctx [card, menu, late] = .ok sheet ∧
      LastWins .standard ctx [card, menu, late] sheet.bySelector ∧ sheet.summary = .ok summary ∧
      sheet.Reports summary ∧ (sheet.bySelector.map fun row => (row.1, row.2.classes)) =
        [(".card", ["grid"]), (".menu", ["flex"])] ∧ (summary.matched, summary.total) = (2, 2)) ∧
    ∃ sheet other, ofRules .standard ctx [card, menu] = .ok sheet ∧
      ofRules .standard ctx [menu, card] = .ok other ∧ Entries.keys other.bySelector = [".menu", ".card"] ∧
      sheet.SameResults other := by
  intro ctx card menu late
  constructor
  · have entries : (ofRules .standard ctx [card, menu, late]).map
        (fun sheet => sheet.bySelector.map fun row => (row.1, row.2.classes)) =
          .ok [(".card", ["grid"]), (".menu", ["flex"])] := by
      decide +kernel
    have totals : (ofRules .standard ctx [card, menu, late]).map (fun sheet => sheet.summary.map
        fun summary => (summary.matched, summary.total)) = .ok (.ok (2, 2)) := by
      decide +kernel
    obtain ⟨sheet, returns, shown⟩ := (map_eq_ok_iff _ _ _).mp entries
    rw [returns] at totals
    obtain ⟨counted, made, counters⟩ := (map_eq_ok_iff _ _ _).mp (Except.ok.inj totals)
    obtain ⟨last, ⟨summary, reported, sums⟩, _⟩ := ofRules_totals .standard ctx _ sheet returns
    rw [reported] at made
    cases made
    exact ⟨sheet, counted, returns, last, reported, sums, shown, counters⟩
  · have apart : ([card, menu].map (·.selector)).Nodup := by decide +kernel
    have moved : [card, menu].Perm [menu, card] := .swap _ _ _
    have first : (ofRules .standard ctx [card, menu]).map size = .ok 2 := by decide +kernel
    have later : (ofRules .standard ctx [menu, card]).map (fun sheet => Entries.keys sheet.bySelector) =
        .ok [".menu", ".card"] := by
      decide +kernel
    obtain ⟨sheet, returns, _⟩ := (map_eq_ok_iff _ _ _).mp first
    obtain ⟨_, _, reorder⟩ := ofRules_totals .standard ctx _ sheet returns
    obtain ⟨other, reordered, same⟩ := reorder [menu, card] moved apart
    rw [reordered] at later
    exact ⟨sheet, other, returns, reordered, Except.ok.inj later, same⟩

end Sheet
end UtilityCss
