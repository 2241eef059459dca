import Mathlib.Tactic.Ring
import UtilityCss.Number.Binary64

namespace UtilityCss
namespace Binary64

theorem one_pos : 0 < one := twoTo_pos 1074

theorem limit_eq : limit = twoTo 1024 * one := by decide +kernel

theorem nearest_le (num den : Nat) : nearest num den ≤ num / den + 1 := by
  unfold nearest
  simp only []
  split
  · omega
  · split <;> omega

theorem grain_le (quotient : Nat) : twoTo (Nat.log2 quotient - 52) ≤ quotient + 1 := by
  by_cases small : Nat.log2 quotient ≤ 52
  · rw [Nat.sub_eq_zero_of_le small]
    exact Nat.succ_le_succ (Nat.zero_le quotient)
  · have filled : quotient ≠ 0 := by
      rintro rfl
      exact small (by decide)
    calc twoTo (Nat.log2 quotient - 52)
        ≤ twoTo (Nat.log2 quotient) := Nat.pow_le_pow_right (by decide) (Nat.sub_le _ _)
      _ ≤ quotient := Nat.log2_self_le filled
      _ ≤ quotient + 1 := Nat.le_succ quotient

theorem nearestUnits_le (num den : Nat) : nearestUnits num den ≤ 2 * (num / den) + 1 := by
  have coarse := grain_le (num / den)
  unfold nearestUnits
  simp only []
  generalize twoTo (Nat.log2 (num / den) - 52) = grain at *
  have near := nearest_le num (den * grain)
  rw [← Nat.div_div_eq_div_mul] at near
  have whole : num / den / grain * grain ≤ num / den := Nat.div_mul_le_self _ _
  calc nearest num (den * grain) * grain
      ≤ (num / den / grain + 1) * grain := Nat.mul_le_mul_right grain near
    _ = num / den / grain * grain + grain := by rw [Nat.add_mul, Nat.one_mul]
    _ ≤ 2 * (num / den) + 1 := by omega

def UpTo (bound : Nat) (x : Binary64) : Prop := ∃ units, x = .finite false units ∧ units ≤ bound * one

theorem ofUnits_upTo (num den bound : Nat) (within : num / den ≤ bound * one)
    (room : 2 * bound + 1 < twoTo 1024) : UpTo (2 * bound + 1) (ofUnits false num den) := by
  have rounded := nearestUnits_le num den
  have small : nearestUnits num den ≤ (2 * bound + 1) * one := by
    have unit := one_pos
    calc nearestUnits num den
        ≤ 2 * (bound * one) + 1 := by omega
      _ ≤ 2 * (bound * one) + one := by omega
      _ = (2 * bound + 1) * one := by rw [Nat.add_mul, Nat.one_mul, Nat.mul_assoc]
  have fits : nearestUnits num den < limit := by
    rw [limit_eq]
    exact lt_of_le_of_lt small (Nat.mul_lt_mul_of_pos_right room one_pos)
  refine ⟨nearestUnits num den, ?_, small⟩
  simp only [ofUnits, fits, if_true]

theorem mul_units (a b : Nat) : finite false a * finite false b = ofUnits false (a * b) one := by
  change mul (finite false a) (finite false b) = _
  rw [mul, bne_self_eq_false]

theorem add_units (a b : Nat) : finite false a + finite false b = ofUnits false (a + b) 1 := by
  change add (finite false a) (finite false b) = _
  rw [add, if_pos rfl]

theorem mul_upTo (x y : Binary64) (a b : Nat) (left : UpTo a x) (right : UpTo b y)
    (room : 2 * (a * b) + 1 < twoTo 1024) : UpTo (2 * (a * b) + 1) (x * y) := by
  obtain ⟨units, rfl, small⟩ := left
  obtain ⟨others, rfl, narrow⟩ := right
  rw [mul_units]
  apply ofUnits_upTo _ _ _ ?_ room
  apply Nat.div_le_of_le_mul
  calc units * others
      ≤ (a * one) * (b * one) := Nat.mul_le_mul small narrow
    _ = one * (a * b * one) := by ring

theorem add_upTo (x y : Binary64) (a b : Nat) (left : UpTo a x) (right : UpTo b y)
    (room : 2 * (a + b) + 1 < twoTo 1024) : UpTo (2 * (a + b) + 1) (x + y) := by
  obtain ⟨units, rfl, small⟩ := left
  obtain ⟨others, rfl, narrow⟩ := right
  rw [add_units]
  apply ofUnits_upTo _ _ _ ?_ room
  rw [Nat.div_one, Nat.add_mul]
  exact Nat.add_le_add small narrow

end Binary64
end UtilityCss
