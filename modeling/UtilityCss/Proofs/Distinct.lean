import Mathlib.Algebra.BigOperators.Group.List.Lemmas
import Mathlib.Data.Finset.Card
import Mathlib.Data.List.Nodup
import UtilityCss.Proofs.Counting

namespace UtilityCss

theorem nodup_map_iff {α β : Type} (view : β → α) (xs : List β) :
    (xs.map view).Nodup ↔ xs.Pairwise fun one other => view one ≠ view other := List.pairwise_map

variable {α : Type} [DecidableEq α]

theorem nodup_eraseDups (xs : List α) : xs.eraseDups.Nodup := by
  induction bound : xs.length using Nat.strongRecOn generalizing xs with
  | ind size ih =>
    cases xs with
    | nil => exact List.nodup_nil
    | cons x rest =>
      rw [List.eraseDups_cons, List.nodup_cons]
      have shorter : (rest.filter fun y => !y == x).length < size := by
        have kept := List.length_filter_le (fun y => !y == x) rest
        rw [List.length_cons] at bound
        omega
      refine ⟨?_, ih _ shorter _ rfl⟩
      intro again
      simp at again

theorem eraseDups_of_nodup (xs : List α) (distinct : xs.Nodup) : xs.eraseDups = xs := by
  induction xs with
  | nil => rfl
  | cons x rest ih =>
    obtain ⟨fresh, others⟩ := List.nodup_cons.mp distinct
    have kept : (rest.filter fun y => !y == x) = rest := by
      rw [List.filter_eq_self]
      intro y member
      have differs : y ≠ x := fun same => fresh (same ▸ member)
      simpa using differs
    rw [List.eraseDups_cons, kept, ih others]

theorem eraseDups_concat (xs : List α) (x : α) :
    (xs ++ [x]).eraseDups = if x ∈ xs then xs.eraseDups else xs.eraseDups ++ [x] := by
  rw [List.eraseDups_append]
  split <;> rename_i listed <;> simp [List.removeAll, List.eraseDups_cons, listed]

theorem eraseDups_sublist (xs : List α) : xs.eraseDups.Sublist xs := by
  induction xs using List.reverseRecOn with
  | nil => exact .slnil
  | append_singleton xs x ih =>
    rw [eraseDups_concat]
    split
    · exact ih.trans (List.sublist_append_left xs [x])
    · exact ih.append_right [x]

theorem eraseDups_perm (xs ys : List α) (same : xs.Perm ys) : xs.eraseDups.Perm ys.eraseDups := by
  rw [List.perm_ext_iff_of_nodup (nodup_eraseDups xs) (nodup_eraseDups ys)]
  intro x
  rw [List.mem_eraseDups, List.mem_eraseDups, same.mem_iff]

-- Each element of a list once, in the order of the first places.
structure Firsts (xs firsts : List α) : Prop where
  once : firsts.Nodup
  members : ∀ x, x ∈ firsts ↔ x ∈ xs
  ordered : firsts.Pairwise fun a b => xs.idxOf a < xs.idxOf b

theorem idxOf_lt_concat (xs : List α) (x a b : α) (first : a ∈ xs) (before : b ∈ xs → xs.idxOf a < xs.idxOf b) :
    (xs ++ [x]).idxOf a < (xs ++ [x]).idxOf b := by
  rw [List.idxOf_append_of_mem first]
  by_cases known : b ∈ xs
  · rw [List.idxOf_append_of_mem known]
    exact before known
  · rw [List.idxOf_append_of_notMem known]
    exact Nat.lt_of_lt_of_le (List.idxOf_lt_length_of_mem first) (Nat.le_add_right _ _)

theorem eraseDups_ordered (xs : List α) : xs.eraseDups.Pairwise fun a b => xs.idxOf a < xs.idxOf b := by
  induction xs using List.reverseRecOn with
  | nil => exact .nil
  | append_singleton xs x ih =>
    have kept : xs.eraseDups.Pairwise fun a b => (xs ++ [x]).idxOf a < (xs ++ [x]).idxOf b := by
      refine ih.imp_of_mem ?_
      intro a b first _ before
      exact idxOf_lt_concat xs x a b (List.mem_eraseDups.mp first) fun _ => before
    rw [eraseDups_concat]
    split
    · exact kept
    · rename_i fresh
      refine List.pairwise_append.mpr ⟨kept, List.pairwise_singleton _ _, ?_⟩
      intro a first b last
      cases List.mem_singleton.mp last
      exact idxOf_lt_concat xs x a x (List.mem_eraseDups.mp first) fun known => absurd known fresh

theorem eraseDups_firsts (xs : List α) : Firsts xs xs.eraseDups :=
  ⟨nodup_eraseDups xs, fun _ => List.mem_eraseDups, eraseDups_ordered xs⟩

theorem length_eraseDups (xs : List α) : xs.eraseDups.length = xs.toFinset.card := by
  rw [← List.toFinset_card_of_nodup (nodup_eraseDups xs)]
  congr 1
  ext x
  rw [List.mem_toFinset, List.mem_toFinset, List.mem_eraseDups]

theorem sum_count_eraseDups (kind : α → Bool) (xs : List α) :
    ((xs.eraseDups.filter kind).map fun x => xs.count x).sum = xs.countP kind := by
  have same : xs.eraseDups.Perm xs.dedup := by
    rw [List.perm_ext_iff_of_nodup (nodup_eraseDups xs) (List.nodup_dedup xs)]
    intro x
    rw [List.mem_eraseDups, List.mem_dedup]
  rw [← List.sum_map_count_dedup_filter_eq_countP]
  exact ((same.filter kind).map _).sum_eq

theorem countP_eraseDups (kind : α → Bool) (xs : List α) : xs.eraseDups.countP kind ≤ xs.countP kind ∧
    (xs.eraseDups.countP kind = xs.countP kind ↔ ∀ x ∈ xs, kind x = true → xs.count x = 1) := by
  have listed (x : α) : x ∈ xs.eraseDups.filter kind ↔ x ∈ xs ∧ kind x = true := by
    rw [List.mem_filter, List.mem_eraseDups]
  obtain ⟨fewer, same⟩ := length_le_sum (fun x => xs.count x) (xs.eraseDups.filter kind) fun x member =>
    List.count_pos_iff.mpr ((listed x).mp member).1
  rw [sum_count_eraseDups, ← List.countP_eq_length_filter] at fewer same
  refine ⟨fewer, same.trans ?_⟩
  simp only [listed, and_imp]

end UtilityCss
