import UtilityCss.Proofs.Entries
import UtilityCss.Proofs.Report.Category

namespace UtilityCss.Coverage

-- What a coverage counts. A table that is absent, or has no row for a category, counts nothing there, and a row
-- of another name is in no counter.
inductive Counter
  | matched
  | total
  | nonArbitrary
  | matchedIn (category : PropertyCategory)
  | totalIn (category : PropertyCategory)
  | warningsIn (category : WarningCategory)

def Counter.read : Counter → Coverage → Int
  | matched, coverage => coverage.matched
  | total, coverage => coverage.total
  | nonArbitrary, coverage => coverage.nonArbitrary
  | matchedIn category, coverage => (categoryEntry category coverage.categories).matched
  | totalIn category, coverage => (categoryEntry category coverage.categories).total
  | warningsIn category, coverage => warningEntry category coverage.warnings

def Counter.sum (counter : Counter) (coverages : List Coverage) : Int :=
  (coverages.map counter.read).sum

theorem sum_eq (numbers : List Int) : Coverage.sum numbers = numbers.sum := List.sum_eq_foldl.symm

theorem Counter.sum_of_perm (counter : Counter) (xs ys : List Coverage) (same : xs.Perm ys) :
    counter.sum xs = counter.sum ys :=
  (same.map counter.read).sum_eq

theorem Counter.sum_flatten (counter : Counter) (lists : List (List Coverage)) :
    counter.sum lists.flatten = (lists.map counter.sum).sum := by
  rw [Counter.sum, List.map_flatten, List.sum_flatten, List.map_map]
  rfl

theorem categoryEntry_of_table (matched total : PropertyCategory → Int) (table : Entries String CategoryStats)
    (returns : categoryTable matched total = .ok table) (category : PropertyCategory) :
    (categoryEntry category (some table)).matched = matched category ∧
      (categoryEntry category (some table)).total = total category := by
  have rows : Entries.mapValues (fun stats => (stats.matched, stats.total)) table =
      PropertyCategory.all.map fun kind => (kind.text, matched kind, total kind) :=
    categoryTable_rows matched total table returns
  have row := Entries.find?_mapValues (fun stats => (stats.matched, stats.total)) category.text table
  have here : Entries.find? category.text
      (PropertyCategory.all.map fun kind => (kind.text, matched kind, total kind)) =
        some (matched category, total category) := by
    cases category <;> rfl
  rw [rows, here, eq_comm, Option.map_eq_some_iff] at row
  obtain ⟨stats, found, counters⟩ := row
  rw [categoryEntry, Option.bind_some, found, Option.getD_some]
  exact Prod.mk.inj counters

theorem warningEntry_merged (tables : List (Option (Entries String Int))) (category : WarningCategory) :
    warningEntry category (some (mergeWarnings tables)) = Coverage.sum (tables.map (warningEntry category)) := by
  cases category <;> rfl

structure MergedFrom (coverages : List Coverage) (whole : Coverage) : Prop where
  matched : whole.matched = Coverage.sum (coverages.map (·.matched))
  total : whole.total = Coverage.sum (coverages.map (·.total))
  nonArbitrary : whole.nonArbitrary = Coverage.sum (coverages.map (·.nonArbitrary))
  categories : (mergeCategories (coverages.map (·.categories))).map some = .ok whole.categories
  warnings : whole.warnings = some (mergeWarnings (coverages.map (·.warnings)))

theorem merge_parts (coverages : List Coverage) (whole : Coverage) (returns : merge coverages = .ok whole) :
    MergedFrom coverages whole := by
  rw [merge, bind_eq_ok_iff] at returns
  obtain ⟨table, rows, returns⟩ := returns
  rw [Coverage.of, bind_eq_ok_iff] at returns
  obtain ⟨rounded, _, made⟩ := returns
  cases made
  exact ⟨rfl, rfl, rfl, by rw [rows]; rfl, rfl⟩

theorem merge_counter (coverages : List Coverage) (whole : Coverage) (returns : merge coverages = .ok whole)
    (counter : Counter) : counter.read whole = counter.sum coverages := by
  have parts := merge_parts coverages whole returns
  obtain ⟨table, rows, kept⟩ := (map_eq_ok_iff some _ _).mp parts.categories
  rw [Counter.sum, ← sum_eq]
  cases counter with
  | matched => exact parts.matched
  | total => exact parts.total
  | nonArbitrary => exact parts.nonArbitrary
  | matchedIn category =>
    rw [Counter.read, ← kept, (categoryEntry_of_table _ _ table rows category).1, List.map_map]
    rfl
  | totalIn category =>
    rw [Counter.read, ← kept, (categoryEntry_of_table _ _ table rows category).2, List.map_map]
    rfl
  | warningsIn category =>
    rw [Counter.read, parts.warnings, warningEntry_merged, List.map_map]
    rfl

theorem merge_of_sums (xs ys : List Coverage) (same : ∀ counter : Counter, counter.sum xs = counter.sum ys) :
    merge xs = merge ys := by
  have sums (counter : Counter) : Coverage.sum (xs.map counter.read) = Coverage.sum (ys.map counter.read) := by
    rw [sum_eq, sum_eq]
    exact same counter
  have matched : Coverage.sum (xs.map (·.matched)) = Coverage.sum (ys.map (·.matched)) := sums .matched
  have total : Coverage.sum (xs.map (·.total)) = Coverage.sum (ys.map (·.total)) := sums .total
  have nonArbitrary : Coverage.sum (xs.map (·.nonArbitrary)) = Coverage.sum (ys.map (·.nonArbitrary)) :=
    sums .nonArbitrary
  have categories : mergeCategories (xs.map (·.categories)) = mergeCategories (ys.map (·.categories)) := by
    unfold mergeCategories
    congr 1
    · funext category
      rw [List.map_map, List.map_map]
      exact sums (.matchedIn category)
    · funext category
      rw [List.map_map, List.map_map]
      exact sums (.totalIn category)
  have warnings : mergeWarnings (xs.map (·.warnings)) = mergeWarnings (ys.map (·.warnings)) := by
    unfold mergeWarnings
    apply List.map_congr_left
    intro category _
    rw [List.map_map, List.map_map]
    exact congrArg (Prod.mk category.text) (sums (.warningsIn category))
  unfold merge
  rw [matched, total, nonArbitrary, categories, warnings]

theorem merge_of_groups_and_orders :
    (∀ (groups : List (List Coverage)) (merged : List Coverage), groups.mapM merge = .ok merged →
      merge groups.flatten = merge merged) ∧
    ∀ xs ys : List Coverage, xs.Perm ys → merge xs = merge ys := by
  constructor
  · intro groups merged each
    apply merge_of_sums
    intro counter
    have sums : merged.map counter.read = groups.map counter.sum :=
      mapM_view merge counter.read counter.sum (fun group whole returns => merge_counter group whole returns counter)
        groups merged each
    rw [counter.sum_flatten, ← sums]
    rfl
  · intro xs ys same
    apply merge_of_sums
    intro counter
    exact counter.sum_of_perm xs ys same

theorem merge_of_partial_tables :
    let one : Coverage := ⟨1, 2, 50, 1, some [("layout", ⟨1, 2, 50⟩), ("sound", ⟨5, 5, 100⟩)], none⟩
    let two : Coverage := ⟨2, 3, 67, 0, none, some [("no-handler", 1), ("noise", 4)]⟩
    let three : Coverage := ⟨0, 4, 0, 0, some [("layout", ⟨0, 4, 0⟩)], some []⟩
    ∃ merged whole, [[one, two], [], [three]].mapM merge = .ok merged ∧
      merge [one, two, three] = .ok whole ∧ (whole.matched, whole.total, whole.percentage) = (3, 9, 33) ∧
      merge [[one, two], [], [three]].flatten = merge merged ∧
      [one, two, three].Perm [three, one, two] ∧ merge [one, two, three] = merge [three, one, two] := by
  intro one two three
  have merges : ([[one, two], [], [three]].mapM merge).map List.length = .ok 3 := by decide +kernel
  have counted : (merge [one, two, three]).map (fun whole => (whole.matched, whole.total, whole.percentage)) =
      .ok (3, 9, 33) := by
    decide +kernel
  obtain ⟨merged, each, _⟩ := (map_eq_ok_iff _ _ _).mp merges
  obtain ⟨whole, returns, counters⟩ := (map_eq_ok_iff _ _ _).mp counted
  have moved : [one, two, three].Perm [three, one, two] := by decide +kernel
  obtain ⟨grouped, ordered⟩ := merge_of_groups_and_orders
  exact ⟨merged, whole, each, returns, counters, grouped _ _ each, moved, ordered _ _ moved⟩

end UtilityCss.Coverage
