import UtilityCss.Proofs.Counting
import UtilityCss.Proofs.Report.Coverage

namespace UtilityCss

namespace PropertyCategory

theorem mem_all (category : PropertyCategory) : category ∈ all := by
  cases category <;> decide

theorem all_nodup : all.Nodup := by decide

end PropertyCategory

theorem CategoryStats.of_counters (matched total : Int) (stats : CategoryStats)
    (returns : CategoryStats.of matched total = .ok stats) : stats.matched = matched ∧ stats.total = total := by
  rw [CategoryStats.of, bind_eq_ok_iff] at returns
  obtain ⟨rounded, _, made⟩ := returns
  cases made
  exact ⟨rfl, rfl⟩

theorem categoryTable_rows (matched total : PropertyCategory → Int)
    (table : Entries String CategoryStats) (returns : categoryTable matched total = .ok table) :
    table.map (fun row => (row.1, row.2.matched, row.2.total)) =
      PropertyCategory.all.map fun category => (category.text, matched category, total category) := by
  refine mapM_view _ _ _ ?_ _ _ returns
  intro category row made
  rw [bind_eq_ok_iff] at made
  obtain ⟨stats, counted, made⟩ := made
  cases made
  obtain ⟨matching, declared⟩ := CategoryStats.of_counters _ _ _ counted
  rw [matching, declared]

theorem sum_of_categories (declarations : List Css.Declaration) (counts : Css.Declaration → Bool) :
    (PropertyCategory.all.map fun category => ((declarations.countP fun d =>
      PropertyCategory.of d.property == category && counts d : Nat) : Int)).sum = declarations.countP counts :=
  sum_countP_kinds_int PropertyCategory.all PropertyCategory.all_nodup
    (fun d : Css.Declaration => PropertyCategory.of d.property) counts declarations
    fun _ _ => PropertyCategory.mem_all _

theorem categoryStats_matched_sum (declarations : List Css.Declaration) (names : List String)
    (table : Entries String CategoryStats) (returns : categoryStats declarations names = .ok table) :
    (table.map fun row => row.2.matched).sum = declarations.countP fun d => names.contains d.name := by
  have rows := congrArg (List.map fun row => row.2.1) (categoryTable_rows _ _ table returns)
  rw [List.map_map, List.map_map] at rows
  rw [← sum_of_categories]
  exact congrArg List.sum rows

theorem categoryStats_total_sum (declarations : List Css.Declaration) (names : List String)
    (table : Entries String CategoryStats) (returns : categoryStats declarations names = .ok table) :
    (table.map fun row => row.2.total).sum = declarations.length := by
  have rows := congrArg (List.map fun row => row.2.2) (categoryTable_rows _ _ table returns)
  rw [List.map_map, List.map_map] at rows
  have all := sum_of_categories declarations fun _ => true
  simp only [Bool.and_true, List.countP_true] at all
  rw [← all]
  exact congrArg List.sum rows

theorem categoryStats_names (declarations : List Css.Declaration) (names : List String)
    (table : Entries String CategoryStats) (returns : categoryStats declarations names = .ok table) :
    table.map Prod.fst = PropertyCategory.all.map PropertyCategory.text := by
  have rows := congrArg (List.map Prod.fst) (categoryTable_rows _ _ table returns)
  rw [List.map_map, List.map_map] at rows
  exact rows

theorem categoryStats_within (declarations : List Css.Declaration) (names : List String)
    (table : Entries String CategoryStats) (returns : categoryStats declarations names = .ok table) :
    ∀ row ∈ table, row.2.matched ≤ row.2.total := by
  intro row member
  have listed := List.mem_map_of_mem (f := fun row : String × CategoryStats => (row.1, row.2.matched, row.2.total))
    member
  rw [categoryTable_rows _ _ table returns, List.mem_map] at listed
  obtain ⟨category, _, same⟩ := listed
  obtain ⟨_, matched, total⟩ := Prod.mk.inj same |>.imp_right Prod.mk.inj
  rw [← matched, ← total, Nat.cast_le]
  apply List.countP_mono_left
  intro d _ both
  exact (Bool.and_eq_true_iff.mp both).1

end UtilityCss
