import UtilityCss.Proofs.Counting
import UtilityCss.Proofs.Distinct
import UtilityCss.Report.Warning

namespace UtilityCss

namespace WarningCategory

theorem mem_all (category : WarningCategory) : category ∈ all := by
  cases category <;> decide

theorem all_nodup : all.Nodup := by decide

end WarningCategory

namespace WarningDigest

theorem warnings_perm (xs ys : List String) (same : xs.Perm ys) :
    (of xs).warnings.Perm (of ys).warnings := by
  have occurrences : (fun warning => counted warning (xs.count warning)) =
      fun warning => counted warning (ys.count warning) := by
    funext warning
    rw [same.count_eq]
  unfold of
  rw [occurrences]
  exact (eraseDups_perm xs ys same).map _

theorem counts_of_perm (xs ys : List String) (same : xs.Perm ys) : (of xs).counts = (of ys).counts := by
  have counts : ∀ category, countIn category xs = countIn category ys := fun _ => same.countP_eq _
  unfold of
  simp only [counts]

theorem find_counts (category : WarningCategory) (warnings : List String) :
    Entries.find? category.text (of warnings).counts = some (countIn category warnings : Int) := by
  cases category <;> rfl

theorem countIn_append (category : WarningCategory) (xs ys : List String) :
    countIn category (xs ++ ys) = countIn category xs + countIn category ys :=
  List.countP_append

theorem counts_sum (warnings : List String) : ((of warnings).counts.map Prod.snd).sum = warnings.length := by
  have counted := sum_countP_kinds_int WarningCategory.all WarningCategory.all_nodup WarningCategory.of
    (fun _ => true) warnings fun _ _ => WarningCategory.mem_all _
  simp only [Bool.and_true, List.countP_true] at counted
  rw [← counted, of, List.map_map]
  rfl

theorem length_warnings (warnings : List String) : (of warnings).warnings.length = warnings.toFinset.card := by
  rw [of, List.length_map, length_eraseDups]

end WarningDigest
end UtilityCss
