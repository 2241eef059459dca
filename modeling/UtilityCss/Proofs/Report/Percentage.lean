import UtilityCss.Proofs.Number.Order
import UtilityCss.Proofs.Report.Coverage

namespace UtilityCss
open Binary64

def halfUp (matched total : Nat) : Nat := (200 * matched + total) / (2 * total)

theorem lt_halfUp_iff (matched total n : Nat) (filled : 0 < total) :
    n < halfUp matched total ↔ (2 * n + 1) * total ≤ 200 * matched := by
  have next : (n + 1) * (2 * total) = (2 * n + 1) * total + total := by ring
  unfold halfUp
  rw [Nat.lt_iff_add_one_le, Nat.le_div_iff_mul_le (by omega), next]
  omega

theorem halfUp_le_hundred (matched total : Nat) (part : matched ≤ total) (filled : 0 < total) :
    halfUp matched total ≤ 100 := by
  apply Nat.le_of_lt_succ
  apply (Nat.div_lt_iff_lt_mul (by omega)).mpr
  omega

namespace Binary64

def shareUnits (matched total : Nat) : Nat := roundedUnits (matched * one) total

def scaledUnits (units : Nat) : Nat := roundedUnits (units * (100 * one)) one

def shiftedUnits (units : Nat) : Nat := roundedUnits (units + twoTo 1073) 1

def percentOf (units : Nat) : Nat := shiftedUnits (scaledUnits units) / one

theorem ofUnits_of_upTo (num den bound : Nat) (small : UpTo bound (ofUnits false num den)) :
    ofUnits false num den = .finite false (roundedUnits num den) := by
  obtain ⟨units, finite, _⟩ := small
  unfold ofUnits at *
  rw [nearestUnits_eq] at *
  dsimp only at *
  split at finite
  · rename_i fits
    rw [if_pos fits]
  · cases finite

theorem shareUnits_mono (a b c d : Nat) (left : 0 < b) (right : 0 < d) (ordered : a * d ≤ c * b) :
    shareUnits a b ≤ shareUnits c d := by
  apply roundedUnits_mono _ _ _ _ left right
  rw [Nat.mul_right_comm, Nat.mul_right_comm c]
  exact Nat.mul_le_mul_right one ordered

theorem percentOf_mono (a b : Nat) (ordered : a ≤ b) : percentOf a ≤ percentOf b := by
  have scaled : scaledUnits a ≤ scaledUnits b :=
    roundedUnits_mono _ _ _ _ one_pos one_pos (Nat.mul_le_mul_right _ (Nat.mul_le_mul_right _ ordered))
  apply Nat.div_le_div_right
  apply roundedUnits_mono _ _ _ _ Nat.one_pos Nat.one_pos
  rw [Nat.mul_one, Nat.mul_one]
  exact Nat.add_le_add_right scaled _

end Binary64

theorem share_upTo (matched total : Nat) (part : matched ≤ total) : UpTo 3 (ofQuotient false matched total) :=
  ofQuotient_upTo matched total 1 (by rwa [Nat.mul_one]) (by decide +kernel)

theorem ofQuotient_share (matched total : Nat) (part : matched ≤ total) :
    ofQuotient false matched total = .finite false (shareUnits matched total) :=
  ofUnits_of_upTo _ _ _ (share_upTo matched total part)

def percentShown (matched total : Nat) : Nat := percentOf (shareUnits matched total)

theorem percentage_shown (matched total : Nat) (part : matched ≤ total) (filled : 0 < total) :
    percentage matched total = .ok (percentShown matched total : Int) := by
  have hundred : (100 : Binary64) = .finite false (100 * one) := by decide +kernel
  have half : ofQuotient false 1 2 = .finite false (twoTo 1073) := by decide +kernel
  have wide := mul_upTo _ _ 3 100 (share_upTo matched total part) hundred_upTo (by decide +kernel)
  have shifted := add_upTo _ _ 601 1 wide half_upTo (by decide +kernel)
  rw [ofQuotient_share matched total part, hundred, mul_units] at wide shifted
  rw [ofUnits_of_upTo _ _ _ wide, half, add_units] at shifted
  have some : ¬(total : Int) ≤ 0 := by omega
  have sign : decide ((matched : Int) < 0) = false := by simp
  simp only [percentage, some, if_false, sign, Int.natAbs_natCast]
  rw [ofQuotient_share matched total part, hundred, mul_units, ofUnits_of_upTo _ _ _ wide, half, add_units,
    ofUnits_of_upTo _ _ _ shifted]
  rfl

theorem percentShown_mono (a b c d : Nat) (left : 0 < b) (right : 0 < d) (ordered : a * d ≤ c * b) :
    percentShown a b ≤ percentShown c d :=
  percentOf_mono _ _ (shareUnits_mono a b c d left right ordered)

theorem percentShown_le_hundred (matched total : Nat) (part : matched ≤ total) (filled : 0 < total) :
    percentShown matched total ≤ 100 := by
  have whole : percentShown 1 1 = 100 := by decide +kernel
  rw [← whole]
  exact percentShown_mono _ _ _ _ filled Nat.one_pos (by omega)

-- The percentages whose upper half is reached too late, and those where it is reached too early.
def lateHalves : List Nat := [14, 28, 56, 57]

def earlyHalves : List Nat := [0, 2, 8, 11, 33, 40, 46, 67, 68, 79, 80, 92, 93]

-- The least share of the format that is shown as more than `n` percent: the one nearest to the half above `n`, or a
-- neighbour of it.
def tippingShare (n : Nat) : Nat :=
  let half := shareUnits (2 * n + 1) 200
  let step := twoTo (lastPlace half 1)
  if lateHalves.contains n then half + step else if earlyHalves.contains n then half - step else half

-- The share before the tipping one, a last place below it, is not shown as more.
structure Tips (n share place : Nat) : Prop where
  shown : n < percentOf share
  silent : percentOf (share - twoTo place) ≤ n
  normal : twoTo (place + 52) + twoTo place ≤ share
  whole : share % twoTo place = 0

instance (n share place : Nat) : Decidable (Tips n share place) :=
  decidable_of_iff (n < percentOf share ∧ percentOf (share - twoTo place) ≤ n ∧
      twoTo (place + 52) + twoTo place ≤ share ∧ share % twoTo place = 0)
    ⟨fun ⟨shown, silent, normal, whole⟩ => ⟨shown, silent, normal, whole⟩,
      fun ⟨shown, silent, normal, whole⟩ => ⟨shown, silent, normal, whole⟩⟩

theorem tippingShare_tips : ∀ n < 100, Tips n (tippingShare n) (lastPlace (tippingShare n - 1) 1) := by
  decide +kernel

theorem lt_percentShown_iff (matched total n : Nat) (filled : 0 < total) (within : n < 100) :
    n < percentShown matched total ↔ tippingShare n ≤ shareUnits matched total := by
  have tips := tippingShare_tips n within
  generalize lastPlace (tippingShare n - 1) 1 = place at tips
  have normal := tips.normal
  have whole : twoTo place ∣ tippingShare n - twoTo place :=
    Nat.dvd_sub (Nat.dvd_of_mod_eq_zero tips.whole) (Nat.dvd_refl _)
  constructor
  · intro more
    rcases roundedUnits_gap (matched * one) total _ place filled (by omega) whole with below | above
    · exact absurd ((percentOf_mono _ _ below).trans tips.silent) (Nat.not_le_of_lt more)
    · rwa [Nat.sub_add_cancel (by omega)] at above
  · intro reached
    exact lt_of_lt_of_le tips.shown (percentOf_mono _ _ reached)

theorem percentShown_half : ∀ n < 100,
    percentShown (2 * n + 1) 200 = if lateHalves.contains n then n else n + 1 := by
  decide +kernel

-- With totals up to this one, a share that is not a half is far enough from it.
def plainTotal : Nat := twoTo 44

theorem percentShown_beside : ∀ n < 100, n < percentShown ((2 * n + 1) * plainTotal + 1) (200 * plainTotal) ∧
    percentShown ((2 * n + 1) * plainTotal - 1) (200 * plainTotal) ≤ n := by
  decide +kernel

section
variable (matched total n : Nat) (filled : 0 < total) (within : n < 100)
include filled within

theorem percentShown_at_half (half : 200 * matched = (2 * n + 1) * total) :
    percentShown matched total = if lateHalves.contains n then n else n + 1 := by
  have hundreds : 0 < 200 := by decide
  have shares : matched * 200 = (2 * n + 1) * total := by rw [Nat.mul_comm, half]
  rw [← percentShown_half n within]
  apply Nat.le_antisymm
  · exact percentShown_mono _ _ _ _ filled hundreds shares.le
  · exact percentShown_mono _ _ _ _ hundreds filled shares.ge

theorem lt_percentShown_of_above (plain : total ≤ plainTotal) (above : (2 * n + 1) * total < 200 * matched) :
    n < percentShown matched total := by
  have scale : 0 < plainTotal := twoTo_pos 44
  refine lt_of_lt_of_le (percentShown_beside n within).1 ?_
  apply percentShown_mono _ _ _ _ (Nat.mul_pos (by decide) scale) filled
  calc ((2 * n + 1) * plainTotal + 1) * total
      = (2 * n + 1) * total * plainTotal + total := by ring
    _ ≤ (2 * n + 1) * total * plainTotal + plainTotal := Nat.add_le_add_left plain _
    _ = ((2 * n + 1) * total + 1) * plainTotal := by ring
    _ ≤ 200 * matched * plainTotal := Nat.mul_le_mul_right plainTotal above
    _ = matched * (200 * plainTotal) := by ring

theorem percentShown_le_of_below (plain : total ≤ plainTotal) (below : 200 * matched < (2 * n + 1) * total) :
    percentShown matched total ≤ n := by
  have scale : 0 < plainTotal := twoTo_pos 44
  refine le_trans ?_ (percentShown_beside n within).2
  apply percentShown_mono _ _ _ _ filled (Nat.mul_pos (by decide) scale)
  obtain ⟨less, whole⟩ : ∃ less, (2 * n + 1) * plainTotal = less + 1 :=
    Nat.exists_eq_add_one.mpr (Nat.mul_pos (Nat.succ_pos _) scale)
  rw [whole, Nat.add_sub_cancel]
  apply Nat.le_of_add_le_add_right (b := plainTotal)
  calc matched * (200 * plainTotal) + plainTotal
      = (200 * matched + 1) * plainTotal := by ring
    _ ≤ (2 * n + 1) * total * plainTotal := Nat.mul_le_mul_right plainTotal below
    _ = (2 * n + 1) * plainTotal * total := Nat.mul_right_comm _ total plainTotal
    _ = less * total + total := by rw [whole, Nat.add_mul, Nat.one_mul]
    _ ≤ less * total + plainTotal := Nat.add_le_add_left plain _

end

theorem eq_iff_lt_alike (bound a b : Nat) (left : a ≤ bound) (right : b ≤ bound) :
    a = b ↔ ∀ n < bound, (n < a ↔ n < b) := by
  constructor
  · rintro rfl n _
    exact Iff.rfl
  · intro alike
    rcases Nat.lt_trichotomy a b with below | same | above
    · exact absurd ((alike a (by omega)).mpr below) (Nat.lt_irrefl a)
    · exact same
    · exact absurd ((alike b (by omega)).mp above) (Nat.lt_irrefl b)

section
variable (matched total : Nat) (part : matched ≤ total) (filled : 0 < total)
include part filled

theorem percentShown_eq_halfUp_iff : percentShown matched total = halfUp matched total ↔
    ∀ n < 100, (n < percentShown matched total ↔ (2 * n + 1) * total ≤ 200 * matched) := by
  rw [eq_iff_lt_alike 100 _ _ (percentShown_le_hundred matched total part filled)
    (halfUp_le_hundred matched total part filled)]
  simp only [lt_halfUp_iff matched total _ filled]

-- Only a late half is shown wrongly, and then one too low.
theorem percentShown_eq_halfUp_iff_plain (plain : total ≤ plainTotal) :
    percentShown matched total = halfUp matched total ↔
      ∀ n ∈ lateHalves, 200 * matched ≠ (2 * n + 1) * total := by
  rw [percentShown_eq_halfUp_iff matched total part filled]
  constructor
  · intro alike n late half
    have within : n < 100 := (by decide : ∀ n ∈ lateHalves, n < 100) n late
    have shown := percentShown_at_half matched total n filled within half
    rw [if_pos (List.contains_iff_mem.mpr late)] at shown
    have more := (alike n within).mpr half.ge
    omega
  · intro apart n within
    rcases Nat.lt_trichotomy (200 * matched) ((2 * n + 1) * total) with below | half | above
    · have silent := percentShown_le_of_below matched total n filled within plain below
      omega
    · have shown := percentShown_at_half matched total n filled within half
      rw [if_neg fun late => apart n (List.contains_iff_mem.mp late) half] at shown
      omega
    · have shown := lt_percentShown_of_above matched total n filled within plain above
      omega

theorem percentShown_near : percentShown matched total ≤ halfUp matched total + 1 ∧
    halfUp matched total ≤ percentShown matched total + 1 := by
  have hundreds : 0 < 200 := by decide
  have halves : ∀ n < 100, n ≤ percentShown (2 * n + 1) 200 ∧ percentShown (2 * n + 1) 200 ≤ n + 1 := by
    intro n within
    rw [percentShown_half n within]
    split <;> omega
  have most := percentShown_le_hundred matched total part filled
  have least := halfUp_le_hundred matched total part filled
  constructor
  · by_cases within : halfUp matched total < 100
    · have next := mt (lt_halfUp_iff matched total _ filled).mpr (Nat.lt_irrefl (halfUp matched total))
      refine le_trans ?_ (halves _ within).2
      exact percentShown_mono _ _ _ _ filled hundreds (by omega)
    · omega
  · cases reached : halfUp matched total with
    | zero => omega
    | succ n =>
      have half := (lt_halfUp_iff matched total n filled).mp (by omega)
      have shown := percentShown_mono (2 * n + 1) 200 matched total hundreds filled (by omega)
      have low := (halves n (by omega)).1
      omega

end

def tipping (n : Nat) : Binary64 := .finite false (tippingShare n)

theorem tipping_atMost_iff (matched total n : Nat) (part : matched ≤ total) (filled : 0 < total)
    (within : n < 100) : (tipping n).atMost (.ofQuotient false matched total) = true ↔
      n < percentShown matched total := by
  rw [lt_percentShown_iff matched total n filled within, ofQuotient_share matched total part]
  simp [atMost, position?, signed, tipping]

theorem percentage_against_halfUp (matched total : Nat) (part : matched ≤ total) (filled : 0 < total) :
    ∃ shown : Nat, percentage matched total = .ok (shown : Int) ∧
      (shown = halfUp matched total ↔ ∀ n < 100,
        ((tipping n).atMost (.ofQuotient false matched total) = true ↔ (2 * n + 1) * total ≤ 200 * matched)) ∧
      (total ≤ plainTotal →
        (shown = halfUp matched total ↔ ∀ n ∈ lateHalves, 200 * matched ≠ (2 * n + 1) * total)) ∧
      shown ≤ halfUp matched total + 1 ∧ halfUp matched total ≤ shown + 1 := by
  refine ⟨_, percentage_shown matched total part filled, ?_,
    percentShown_eq_halfUp_iff_plain matched total part filled, percentShown_near matched total part filled⟩
  rw [percentShown_eq_halfUp_iff matched total part filled]
  apply forall_congr'
  intro n
  apply forall_congr'
  intro within
  rw [tipping_atMost_iff matched total n part filled within]

theorem percentage_against_halfUp_of_eighth : 1 ≤ 8 ∧ 0 < 8 ∧
    percentage 1 8 = .ok (halfUp 1 8 : Int) ∧ halfUp 1 8 = 13 := by
  obtain ⟨shown, returns, _, plainly, _⟩ := percentage_against_halfUp 1 8 (by decide) (by decide)
  have same := (plainly (by decide +kernel)).mpr (by decide)
  rw [same] at returns
  exact ⟨by decide, by decide, returns, by decide⟩

theorem percentage_differs_from_halfUp :
    percentage 23 40 = .ok 57 ∧ halfUp 23 40 = 58 ∧
      percentage 40000000000000 8000000000000001 = .ok 1 ∧ halfUp 40000000000000 8000000000000001 = 0 := by
  decide +kernel

end UtilityCss
