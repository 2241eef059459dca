import Mathlib.Algebra.BigOperators.Ring.Finset
import Mathlib.Data.List.Nodup

namespace UtilityCss

variable {α β κ : Type} [DecidableEq κ]

theorem isEmpty_of_length (xs : List α) (ys : List β) (same : xs.length = ys.length) :
    xs.isEmpty = ys.isEmpty := by
  rw [Bool.eq_iff_iff, List.isEmpty_iff_length_eq_zero, List.isEmpty_iff_length_eq_zero, same]

theorem sum_indicator (kinds : List κ) (distinct : kinds.Nodup) (kind : κ) (listed : kind ∈ kinds) :
    (kinds.map fun other => if kind = other then 1 else 0).sum = 1 := by
  induction kinds with
  | nil => cases listed
  | cons first rest ih =>
    obtain ⟨fresh, others⟩ := List.nodup_cons.mp distinct
    by_cases here : kind = first
    · subst here
      have none : (rest.map fun other => if kind = other then 1 else 0) = rest.map fun _ => 0 := by
        apply List.map_congr_left
        intro other member
        have differs : kind ≠ other := fun same => fresh (same ▸ member)
        exact if_neg differs
      simp [none]
    · have later : kind ∈ rest := (List.mem_cons.mp listed).resolve_left here
      simpa [here] using ih others later

theorem sum_countP_kinds (kinds : List κ) (distinct : kinds.Nodup) (kind : α → κ) (counts : α → Bool)
    (xs : List α) (listed : ∀ x ∈ xs, kind x ∈ kinds) :
    (kinds.map fun k => xs.countP fun x => kind x == k && counts x).sum = xs.countP counts := by
  induction xs with
  | nil => simp
  | cons x rest ih =>
    have others := ih fun y member => listed y (List.mem_cons_of_mem _ member)
    simp only [List.countP_cons, List.sum_map_add, others]
    congr 1
    cases counted : counts x with
    | false => simp
    | true => simpa using sum_indicator kinds distinct (kind x) (listed x List.mem_cons_self)

theorem sum_countP_kinds_int (kinds : List κ) (distinct : kinds.Nodup) (kind : α → κ) (counts : α → Bool)
    (xs : List α) (listed : ∀ x ∈ xs, kind x ∈ kinds) :
    (kinds.map fun k => ((xs.countP fun x => kind x == k && counts x : Nat) : Int)).sum = xs.countP counts := by
  rw [← sum_countP_kinds kinds distinct kind counts xs listed, Nat.cast_list_sum, List.map_map]
  rfl

theorem countP_eq_iff (fewer more : α → Bool) (xs : List α)
    (within : ∀ x ∈ xs, fewer x = true → more x = true) :
    xs.countP fewer = xs.countP more ↔ ∀ x ∈ xs, more x = true → fewer x = true := by
  constructor
  · intro same
    induction xs with
    | nil => exact nofun
    | cons x rest ih =>
      have later : ∀ y ∈ rest, fewer y = true → more y = true :=
        fun y member => within y (List.mem_cons_of_mem _ member)
      have bound := List.countP_mono_left later
      have here := within x List.mem_cons_self
      rw [List.countP_cons, List.countP_cons] at same
      have agree : more x = true → fewer x = true := by
        intro many
        by_contra few
        rw [if_neg few, if_pos many] at same
        omega
      have tails : rest.countP fewer = rest.countP more := by
        rw [Bool.eq_iff_iff.mpr ⟨here, agree⟩] at same
        exact Nat.add_right_cancel same
      intro y member
      rcases List.mem_cons.mp member with rfl | other
      · exact agree
      · exact ih later tails y other
  · intro back
    exact List.countP_congr fun x member => ⟨within x member, back x member⟩

theorem countP_le_length_flatMap (counts : α → Bool) (given : α → List β) (xs : List α)
    (each : ∀ x ∈ xs, counts x = true → given x ≠ []) : xs.countP counts ≤ (xs.flatMap given).length := by
  induction xs with
  | nil => exact Nat.le_refl 0
  | cons x rest ih =>
    rw [List.forall_mem_cons] at each
    have others := ih each.2
    rw [List.countP_cons, List.flatMap_cons, List.length_append]
    split
    · rename_i counted
      have some := List.length_pos_iff.mpr (each.1 counted)
      omega
    · omega

theorem length_flatMap_le (fewer more : α → List β) (xs : List α)
    (shorter : ∀ x ∈ xs, (fewer x).length ≤ (more x).length) :
    (xs.flatMap fewer).length ≤ (xs.flatMap more).length := by
  induction xs with
  | nil => exact Nat.le_refl 0
  | cons x rest ih =>
    rw [List.forall_mem_cons] at shorter
    rw [List.flatMap_cons, List.flatMap_cons, List.length_append, List.length_append]
    exact Nat.add_le_add shorter.1 (ih shorter.2)

theorem flatMap_eq_iff (fewer more : α → List β) (xs : List α)
    (shorter : ∀ x ∈ xs, (fewer x).length ≤ (more x).length) :
    xs.flatMap fewer = xs.flatMap more ↔ ∀ x ∈ xs, fewer x = more x := by
  induction xs with
  | nil => exact ⟨fun _ => nofun, fun _ => rfl⟩
  | cons x rest ih =>
    rw [List.forall_mem_cons] at shorter ⊢
    rw [List.flatMap_cons, List.flatMap_cons, ← ih shorter.2]
    constructor
    · intro same
      have whole := congrArg List.length same
      rw [List.length_append, List.length_append] at whole
      have later := length_flatMap_le fewer more rest shorter.2
      exact List.append_inj same (Nat.le_antisymm shorter.1 (by omega))
    · rintro ⟨here, later⟩
      rw [here, later]

theorem length_le_sum (number : α → Nat) (xs : List α) (each : ∀ x ∈ xs, 0 < number x) :
    xs.length ≤ (xs.map number).sum ∧ (xs.length = (xs.map number).sum ↔ ∀ x ∈ xs, number x = 1) := by
  induction xs with
  | nil => simp
  | cons x rest ih =>
    rw [List.forall_mem_cons] at each ⊢
    obtain ⟨fewer, same⟩ := ih each.2
    rw [List.map_cons, List.sum_cons, List.length_cons, ← same]
    omega

end UtilityCss
