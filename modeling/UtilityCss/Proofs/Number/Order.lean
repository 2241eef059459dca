import Mathlib.Data.Nat.Log
import UtilityCss.Proofs.Number.Rounding

namespace UtilityCss
namespace Binary64

theorem twoTo_add (a b : Nat) : twoTo (a + b) = twoTo a * twoTo b := Nat.pow_add 2 a b

theorem twoTo_le {a b : Nat} (below : a ≤ b) : twoTo a ≤ twoTo b := Nat.pow_le_pow_right (by decide) below

theorem lt_nearest_iff (num den n : Nat) (filled : 0 < den) : n < nearest num den ↔
    (2 * n + 1) * den < 2 * num ∨ ((2 * n + 1) * den = 2 * num ∧ n % 2 = 1) := by
  have division := Nat.div_add_mod num den
  have small := Nat.mod_lt num filled
  have half : (2 * n + 1) * den = 2 * (n * den) + den := by ring
  rw [Nat.mul_comm] at division
  rw [half]
  unfold nearest
  dsimp only
  rcases Nat.lt_trichotomy n (num / den) with below | rfl | above
  · have room : (n + 1) * den ≤ num / den * den := Nat.mul_le_mul_right den below
    rw [Nat.add_mul, Nat.one_mul] at room
    split
    · omega
    · split <;> omega
  · split
    · omega
    · split <;> omega
  · have room : (num / den + 1) * den ≤ n * den := Nat.mul_le_mul_right den above
    rw [Nat.add_mul, Nat.one_mul] at room
    split
    · omega
    · split <;> omega

theorem nearest_mono (a b c d : Nat) (left : 0 < b) (right : 0 < d) (ordered : a * d ≤ c * b) :
    nearest a b ≤ nearest c d := by
  by_contra reversed
  have past := (lt_nearest_iff a b (nearest c d) left).mp (Nat.lt_of_not_le reversed)
  refine Nat.lt_irrefl (nearest c d) ((lt_nearest_iff c d _ right).mpr ?_)
  generalize 2 * nearest c d + 1 = half at past ⊢
  have scaled : 2 * a * d ≤ 2 * c * b := by
    rw [Nat.mul_assoc, Nat.mul_assoc]
    exact Nat.mul_le_mul_left 2 ordered
  rcases past with beyond | ⟨at_half, odd⟩
  · left
    apply Nat.lt_of_mul_lt_mul_right (a := b)
    calc half * d * b
        = half * b * d := Nat.mul_right_comm half d b
      _ < 2 * a * d := Nat.mul_lt_mul_of_pos_right beyond right
      _ ≤ 2 * c * b := scaled
  · have reached : half * d ≤ 2 * c := by
      apply Nat.le_of_mul_le_mul_right (c := b) ?_ left
      rwa [Nat.mul_right_comm, at_half]
    rcases Nat.lt_or_eq_of_le reached with beyond | same
    · exact .inl beyond
    · exact .inr ⟨same, odd⟩

theorem nearest_whole (n : Nat) : nearest n 1 = n := by
  unfold nearest
  simp only [Nat.div_one, Nat.mod_one]
  rfl

-- The exponent of the last place that a quotient is rounded at. Its logarithm takes few steps for long numbers, so
-- roundings are evaluated in this form.
def lastPlace (num den : Nat) : Nat := Nat.log 2 (num / den) - 52

def roundedUnits (num den : Nat) : Nat :=
  nearest num (den * twoTo (lastPlace num den)) * twoTo (lastPlace num den)

theorem nearestUnits_eq (num den : Nat) : nearestUnits num den = roundedUnits num den := by
  unfold nearestUnits roundedUnits lastPlace
  rw [Nat.log2_eq_log_two]

theorem lastPlace_dvd (num den : Nat) : twoTo (lastPlace num den) ∣ roundedUnits num den :=
  ⟨_, Nat.mul_comm _ _⟩

theorem lastPlace_mono (a b c d : Nat) (left : 0 < b) (right : 0 < d) (ordered : a * d ≤ c * b) :
    lastPlace a b ≤ lastPlace c d := by
  have quotients : a / b ≤ c / d := by
    rw [Nat.le_div_iff_mul_le right]
    apply Nat.le_of_mul_le_mul_right (c := b) ?_ left
    calc a / b * d * b
        = a / b * b * d := Nat.mul_right_comm _ d b
      _ ≤ a * d := Nat.mul_le_mul_right d (Nat.div_mul_le_self a b)
      _ ≤ c * b := ordered
  exact Nat.sub_le_sub_right (Nat.log_mono_right quotients) 52

theorem roundedUnits_le_twoTo (num den top : Nat) (filled : 0 < den) (coarse : lastPlace num den ≤ top)
    (within : num ≤ twoTo top * den) : roundedUnits num den ≤ twoTo top := by
  obtain ⟨more, rfl⟩ := Nat.exists_eq_add_of_le coarse
  rw [roundedUnits, twoTo_add, Nat.mul_comm]
  apply Nat.mul_le_mul_left
  rw [← nearest_whole (twoTo more)]
  apply nearest_mono _ _ _ _ (Nat.mul_pos filled (twoTo_pos _)) Nat.one_pos
  rw [twoTo_add] at within
  rwa [Nat.mul_one, Nat.mul_comm den, ← Nat.mul_assoc, Nat.mul_comm (twoTo more)]

theorem twoTo_le_roundedUnits (num den low : Nat) (filled : 0 < den) (coarse : lastPlace num den ≤ low)
    (beyond : twoTo low * den ≤ num) : twoTo low ≤ roundedUnits num den := by
  obtain ⟨more, rfl⟩ := Nat.exists_eq_add_of_le coarse
  rw [roundedUnits, twoTo_add, Nat.mul_comm]
  apply Nat.mul_le_mul_right
  rw [← nearest_whole (twoTo more)]
  apply nearest_mono _ _ _ _ Nat.one_pos (Nat.mul_pos filled (twoTo_pos _))
  rw [twoTo_add] at beyond
  rwa [Nat.mul_one, Nat.mul_comm den, ← Nat.mul_assoc, Nat.mul_comm (twoTo more)]

theorem lt_next_place (num den : Nat) (filled : 0 < den) : num < twoTo (lastPlace num den + 53) * den := by
  rw [← Nat.div_lt_iff_lt_mul filled]
  calc num / den
      < twoTo (Nat.log 2 (num / den) + 1) := Nat.lt_pow_succ_log_self (by decide) _
    _ ≤ twoTo (lastPlace num den + 53) := twoTo_le (by unfold lastPlace; omega)

theorem place_le (num den : Nat) (filled : 0 < den) (some : 0 < lastPlace num den) :
    twoTo (lastPlace num den + 52) * den ≤ num := by
  rw [← Nat.le_div_iff_mul_le filled]
  unfold lastPlace at *
  have place : Nat.log 2 (num / den) - 52 + 52 = Nat.log 2 (num / den) := by omega
  rw [place]
  apply Nat.pow_log_le_self
  intro empty
  rw [empty] at some
  exact absurd some (by decide)

-- Two quotients rounded at one place are rounded alike; of two places a power of two stands between.
theorem roundedUnits_mono (a b c d : Nat) (left : 0 < b) (right : 0 < d) (ordered : a * d ≤ c * b) :
    roundedUnits a b ≤ roundedUnits c d := by
  rcases Nat.lt_or_eq_of_le (lastPlace_mono a b c d left right ordered) with finer | same
  · calc roundedUnits a b
        ≤ twoTo (lastPlace a b + 53) :=
          roundedUnits_le_twoTo a b _ left (by omega) (lt_next_place a b left).le
      _ ≤ twoTo (lastPlace c d + 52) := twoTo_le (by omega)
      _ ≤ roundedUnits c d := twoTo_le_roundedUnits c d _ right (by omega) (place_le c d right (by omega))
  · unfold roundedUnits
    rw [← same]
    have grain := twoTo_pos (lastPlace a b)
    apply Nat.mul_le_mul_right
    apply nearest_mono _ _ _ _ (Nat.mul_pos left grain) (Nat.mul_pos right grain)
    rw [← Nat.mul_assoc, ← Nat.mul_assoc]
    exact Nat.mul_le_mul_right _ ordered

theorem roundedUnits_gap (num den units place : Nat) (filled : 0 < den) (normal : twoTo (place + 52) ≤ units)
    (whole : twoTo place ∣ units) :
    roundedUnits num den ≤ units ∨ units + twoTo place ≤ roundedUnits num den := by
  by_cases coarse : place ≤ lastPlace num den
  · have grain : twoTo place ∣ roundedUnits num den :=
      (Nat.pow_dvd_pow 2 coarse).trans (lastPlace_dvd num den)
    rcases Nat.lt_or_ge units (roundedUnits num den) with above | below
    · right
      have apart := Nat.le_of_dvd (Nat.sub_pos_of_lt above) (Nat.dvd_sub grain whole)
      omega
    · exact .inl below
  · left
    calc roundedUnits num den
        ≤ twoTo (lastPlace num den + 53) :=
          roundedUnits_le_twoTo num den _ filled (by omega) (lt_next_place num den filled).le
      _ ≤ twoTo (place + 52) := twoTo_le (by omega)
      _ ≤ units := normal

end Binary64
end UtilityCss
