import UtilityCss.Text.Blank

namespace UtilityCss.Text

variable {drop : Char → Bool}

def Tight (drop : Char → Bool) (cs : List Char) : Prop :=
  (∀ c, cs.head? = some c → drop c = false) ∧ ∀ c, cs.getLast? = some c → drop c = false

theorem dropWhile_head (cs : List Char) (c : Char) (first : (cs.dropWhile drop).head? = some c) :
    drop c = false := by
  have kept := List.head?_dropWhile_not drop cs
  rw [first] at kept
  simpa using kept

theorem dropWhile_of_head (cs : List Char) (kept : ∀ c, cs.head? = some c → drop c = false) :
    cs.dropWhile drop = cs := by
  cases cs with
  | nil => rfl
  | cons c rest => rw [List.dropWhile_cons_of_neg (by simp [kept c rfl])]

theorem run_of_all (front rest : List Char) (inside : ∀ c ∈ front, drop c = true)
    (apart : ∀ c, rest.head? = some c → drop c = false) :
    (front ++ rest).takeWhile drop = front ∧ (front ++ rest).dropWhile drop = rest := by
  rw [List.takeWhile_append_of_pos inside, List.dropWhile_append_of_pos inside, dropWhile_of_head rest apart]
  refine ⟨?_, rfl⟩
  cases rest with
  | nil => exact List.append_nil front
  | cons c tail => rw [List.takeWhile_cons_of_neg (by simp [apart c rfl]), List.append_nil]

theorem dropWhile_marks (mark : Char) (count : Nat) (rest : List Char) (apart : ∀ c, rest.head? = some c → c ≠ mark) :
    (List.replicate count mark ++ rest).dropWhile (· == mark) = rest := by
  have marks : ∀ c ∈ List.replicate count mark, (c == mark) = true := fun c member =>
    beq_iff_eq.mpr (List.eq_of_mem_replicate member)
  exact (run_of_all _ rest marks fun c first => beq_eq_false_iff_ne.mpr (apart c first)).2

theorem stripped_tight (cs : List Char) : Tight drop (stripped drop cs) := by
  constructor
  · intro c first
    obtain ⟨taken, whole⟩ : ∃ taken, stripped drop cs ++ taken = cs.dropWhile drop := by
      refine ⟨((cs.dropWhile drop).reverse.takeWhile drop).reverse, ?_⟩
      rw [stripped, dropEnd, ← List.reverse_append, List.takeWhile_append_dropWhile, List.reverse_reverse]
    apply dropWhile_head cs c
    rw [← whole]
    cases shape : stripped drop cs with
    | nil => rw [shape] at first; cases first
    | cons d rest => rw [shape] at first; exact first
  · intro c last
    rw [stripped, dropEnd, List.getLast?_reverse] at last
    exact dropWhile_head _ c last

theorem stripped_of_tight (cs : List Char) (tight : Tight drop cs) : stripped drop cs = cs := by
  rw [stripped, dropWhile_of_head cs tight.1, dropEnd, dropWhile_of_head, List.reverse_reverse]
  intro c last
  rw [List.head?_reverse] at last
  exact tight.2 c last

theorem stripped_behind (front body : List Char) (cut : ∀ c ∈ front, drop c = true) (tight : Tight drop body) :
    stripped drop (front ++ body) = body := by
  have kept := stripped_of_tight body tight
  unfold stripped at kept ⊢
  rw [List.dropWhile_append_of_pos cut]
  exact kept

theorem stripped_split (cs : List Char) : ∃ front back, cs = front ++ stripped drop cs ++ back ∧
    (∀ c ∈ front, drop c = true) ∧ ∀ c ∈ back, drop c = true := by
  refine ⟨cs.takeWhile drop, ((cs.dropWhile drop).reverse.takeWhile drop).reverse, ?_, ?_, ?_⟩
  · rw [stripped, dropEnd, List.append_assoc, ← List.reverse_append, List.takeWhile_append_dropWhile,
      List.reverse_reverse, List.takeWhile_append_dropWhile]
  · exact List.all_eq_true.mp List.all_takeWhile
  · exact fun c member => List.all_eq_true.mp List.all_takeWhile c (List.mem_reverse.mp member)

theorem stripped_sublist (cs : List Char) : (stripped drop cs).Sublist cs := by
  rw [stripped, dropEnd]
  have back := (List.dropWhile_sublist drop (l := (cs.dropWhile drop).reverse)).reverse
  rw [List.reverse_reverse] at back
  exact back.trans (List.dropWhile_sublist drop)

theorem trim_sublist (s : String) : (trim s).toList.Sublist s.toList := by
  rw [toList_trim]
  exact stripped_sublist s.toList

def trimStart (s : String) : String := String.ofList (s.toList.dropWhile isBlank)

theorem toList_trimStart (s : String) : (trimStart s).toList = s.toList.dropWhile isBlank := String.toList_ofList

theorem trim_eq_self (s : String) : trim s = s ↔ Tight isBlank s.toList := by
  constructor
  · intro same
    rw [← same, toList_trim]
    exact stripped_tight s.toList
  · intro tight
    apply String.toList_inj.mp
    rw [toList_trim, stripped_of_tight _ tight]

theorem trim_trim (s : String) : trim (trim s) = trim s := by
  rw [trim_eq_self, toList_trim]
  exact stripped_tight s.toList

end UtilityCss.Text
