import UtilityCss.Number.Decimal
import UtilityCss.Proofs.Number.Order

namespace UtilityCss
namespace Binary64

-- The greatest number of the format is 2^1024 - 2^971.
def ceiling : Nat := twoTo 1024 - twoTo 970

theorem ceiling_rounded : roundedUnits (ceiling * one) 1 = limit := by decide +kernel

theorem ceiling_doubled : 2 * (ceiling * one) = (2 * (twoTo 53 - 1) + 1) * twoTo 2045 := by decide +kernel

theorem ceiling_lt_limit : ceiling * one < limit := by decide +kernel

theorem lastPlace_of_lt_limit (num den : Nat) (filled : 0 < den) (small : num < limit * den) :
    lastPlace num den ≤ 2045 := by
  by_contra coarse
  have reached : limit * den ≤ num := by
    calc limit * den
        ≤ twoTo (lastPlace num den + 52) * den := Nat.mul_le_mul_right den (twoTo_le (by omega))
      _ ≤ num := place_le num den filled (by omega)
  omega

theorem limit_le_roundedUnits_iff (num den : Nat) (filled : 0 < den) :
    limit ≤ roundedUnits num den ↔ ceiling * one * den ≤ num := by
  constructor
  · intro rounds
    by_contra under
    have small : num < limit * den := by
      calc num
          < ceiling * one * den := Nat.lt_of_not_le under
        _ ≤ limit * den := Nat.mul_le_mul_right den ceiling_lt_limit.le
    rcases Nat.lt_or_eq_of_le (lastPlace_of_lt_limit num den filled small) with finer | same
    · have bound : roundedUnits num den ≤ twoTo 2097 :=
        roundedUnits_le_twoTo num den 2097 filled (by omega)
          ((lt_next_place num den filled).le.trans (Nat.mul_le_mul_right den (twoTo_le (by omega))))
      have below : twoTo 2097 < limit := by decide +kernel
      omega
    · -- At the coarsest place the limit is one step above the greatest number, and half of that step is the ceiling.
      have top : limit = twoTo 53 * twoTo 2045 := by decide +kernel
      rw [roundedUnits, same, top] at rounds
      have past : twoTo 53 - 1 < nearest num (den * twoTo 2045) := by
        have reached := Nat.le_of_mul_le_mul_right rounds (twoTo_pos 2045)
        have some := twoTo_pos 53
        omega
      rw [lt_nearest_iff _ _ _ (Nat.mul_pos filled (twoTo_pos 2045)), Nat.mul_comm den, ← Nat.mul_assoc,
        ← ceiling_doubled, Nat.mul_assoc 2] at past
      omega
  · intro beyond
    rw [← ceiling_rounded]
    apply roundedUnits_mono _ _ _ _ Nat.one_pos filled
    rwa [Nat.mul_one]

theorem ofQuotient_infinite_iff (negative sign : Bool) (num den : Nat) (filled : 0 < den) :
    ofQuotient negative num den = .infinite sign ↔ sign = negative ∧ ceiling * den ≤ num := by
  have scaled : ceiling * one * den ≤ num * one ↔ ceiling * den ≤ num := by
    rw [Nat.mul_right_comm]
    exact Nat.mul_le_mul_right_iff one_pos
  rw [← scaled, ← limit_le_roundedUnits_iff _ _ filled, ← nearestUnits_eq]
  unfold ofQuotient ofUnits
  dsimp only
  split
  · rename_i fits
    simp [Nat.not_le.mpr fits]
  · rename_i large
    simp [Nat.le_of_not_lt large, eq_comm]

end Binary64

namespace Decimal
open Binary64

theorem tenTo_le {a b : Nat} (below : a ≤ b) : tenTo a ≤ tenTo b := Nat.pow_le_pow_right (by decide) below

-- In whole numbers: at least the least magnitude that is rounded to infinity.
def Overflows (x : Decimal) : Prop :=
  ceiling * tenTo (-x.exponent).toNat ≤ x.digits * tenTo x.exponent.toNat

theorem overflows_of_high (x : Decimal) (filled : x.digits ≠ 0) (up : Nat) (power : x.exponent = up)
    (high : 400 < up) : x.Overflows := by
  have room : ceiling ≤ tenTo 401 := by decide +kernel
  unfold Overflows
  rw [power]
  calc ceiling * tenTo (-(up : Int)).toNat
      = ceiling := by simp [tenTo]
    _ ≤ tenTo up := room.trans (tenTo_le high)
    _ ≤ x.digits * tenTo up := Nat.le_mul_of_pos_left _ (Nat.pos_of_ne_zero filled)

theorem fits_of_low (x : Decimal) (below : Nat) (power : x.exponent = .negSucc below)
    (low : Nat.log2 x.digits + 1077 < 3 * (below + 1)) : ¬ x.Overflows := by
  unfold Overflows
  rw [power]
  apply Nat.not_le.mpr
  calc x.digits * tenTo (Int.negSucc below).toNat
      = x.digits := by simp [tenTo]
    _ < twoTo (Nat.log2 x.digits + 1) := Nat.lt_log2_self
    _ ≤ twoTo (3 * (below + 1)) := twoTo_le (by omega)
    _ = 8 ^ (below + 1) := Nat.pow_mul 2 3 (below + 1)
    _ ≤ tenTo (below + 1) := Nat.pow_le_pow_left (by decide) _
    _ ≤ ceiling * tenTo (below + 1) := Nat.le_mul_of_pos_left _ (by decide +kernel)

theorem toBinary64_infinite_iff (x : Decimal) (sign : Bool) :
    x.toBinary64 = .infinite sign ↔ sign = x.negative ∧ x.Overflows := by
  unfold toBinary64
  by_cases nothing : x.digits = 0
  · have fits : ¬ x.Overflows := by
      unfold Overflows
      rw [nothing, Nat.zero_mul]
      exact Nat.not_le.mpr (Nat.mul_pos (by decide +kernel) (tenTo_pos _))
    simp [nothing, fits]
  · rw [if_neg nothing]
    -- Beyond both bounds on the exponent nothing is computed: the number is too large or far too small by
    -- itself.
    split
    · rename_i up power
      split
      · rename_i high
        have overflows := overflows_of_high x nothing up power high
        simp [overflows, eq_comm]
      · rw [ofQuotient_infinite_iff _ _ _ _ Nat.one_pos]
        simp [Overflows, power, tenTo]
    · rename_i below power
      split
      · rename_i low
        simp [fits_of_low x below power low]
      · rw [ofQuotient_infinite_iff _ _ _ _ (tenTo_pos _)]
        simp [Overflows, power, tenTo]

end Decimal

namespace Binary64
open Text

def Unbounded (blank digit : Char → Bool) (s : String) : Prop :=
  let cs := stripped blank s.toList
  (∃ sign, ofName? (cs.map asciiLower) = some (.infinite sign)) ∨
    (ofName? (cs.map asciiLower) = none ∧ ∃ numeral, Decimal.readPlain? digit cs = some numeral ∧ numeral.Overflows)

theorem read?_infinite_iff (blank digit : Char → Bool) (s : String) :
    (∃ sign, read? blank digit s = some (.infinite sign)) ↔ Unbounded blank digit s := by
  unfold read? Unbounded
  dsimp only
  cases named : ofName? ((stripped blank s.toList).map asciiLower) with
  | some x => simp
  | none =>
    cases written : Decimal.readPlain? digit (stripped blank s.toList) with
    | none => simp
    | some numeral => simp [Decimal.toBinary64_infinite_iff]

end Binary64
end UtilityCss
