import UtilityCss.Number.Binary64

namespace UtilityCss.Binary64

variable {x y z : Binary64}

theorem position_of_number (number : x ≠ .nan) : ∃ place, position? x = some place := by
  cases x with
  | finite negative units => exact ⟨_, rfl⟩
  | infinite negative => exact ⟨_, rfl⟩
  | nan => exact absurd rfl number

theorem atMost_iff : x.atMost y = true ↔ ∃ p q, position? x = some p ∧ position? y = some q ∧ p ≤ q := by
  unfold atMost
  cases position? x <;> cases position? y <;> simp

theorem lessThan_iff : x.lessThan y = true ↔ ∃ p q, position? x = some p ∧ position? y = some q ∧ p < q := by
  unfold lessThan
  cases position? x <;> cases position? y <;> simp

theorem number_of_atMost (ordered : x.atMost y = true) : x ≠ .nan := by
  rintro rfl
  cases ordered

theorem atMost_refl (number : x ≠ .nan) : x.atMost x = true := by
  obtain ⟨place, stands⟩ := position_of_number number
  exact atMost_iff.mpr ⟨place, place, stands, stands, Int.le_refl place⟩

theorem atMost_trans (left : x.atMost y = true) (right : y.atMost z = true) : x.atMost z = true := by
  obtain ⟨p, q, here, middle, below⟩ := atMost_iff.mp left
  obtain ⟨r, s, again, there, under⟩ := atMost_iff.mp right
  rw [middle] at again
  cases again
  exact atMost_iff.mpr ⟨p, s, here, there, Int.le_trans below under⟩

theorem atMost_of_lessThan (less : x.lessThan y = true) : x.atMost y = true := by
  obtain ⟨p, q, here, there, below⟩ := lessThan_iff.mp less
  exact atMost_iff.mpr ⟨p, q, here, there, Int.le_of_lt below⟩

theorem lessThan_of_lessThan_of_atMost (left : x.lessThan y = true) (right : y.atMost z = true) :
    x.lessThan z = true := by
  obtain ⟨p, q, here, middle, below⟩ := lessThan_iff.mp left
  obtain ⟨r, s, again, there, under⟩ := atMost_iff.mp right
  rw [middle] at again
  cases again
  exact lessThan_iff.mpr ⟨p, s, here, there, Int.lt_of_lt_of_le below under⟩

theorem not_lessThan_iff (left : x ≠ .nan) (right : y ≠ .nan) : x.lessThan y = false ↔ y.atMost x = true := by
  obtain ⟨p, here⟩ := position_of_number left
  obtain ⟨q, there⟩ := position_of_number right
  simp [lessThan, atMost, here, there]

theorem not_atMost_iff (left : x ≠ .nan) (right : y ≠ .nan) : x.atMost y = false ↔ y.lessThan x = true := by
  obtain ⟨p, here⟩ := position_of_number left
  obtain ⟨q, there⟩ := position_of_number right
  simp [lessThan, atMost, here, there]

theorem not_lessThan_of_atMost (ordered : x.atMost y = true) : y.lessThan x = false := by
  obtain ⟨p, q, here, there, below⟩ := atMost_iff.mp ordered
  simpa [lessThan, here, there] using below

theorem not_atMost_of_lessThan (less : x.lessThan y = true) : y.atMost x = false := by
  obtain ⟨p, q, here, there, below⟩ := lessThan_iff.mp less
  simpa [atMost, here, there] using below

end UtilityCss.Binary64
