namespace UtilityCss

def twoTo (n : Nat) : Nat := Nat.pow 2 n
def tenTo (n : Nat) : Nat := Nat.pow 10 n

theorem twoTo_pos (n : Nat) : 0 < twoTo n := Nat.pow_pos (by decide)
theorem tenTo_pos (n : Nat) : 0 < tenTo n := Nat.pow_pos (by decide)

-- Every finite number of the format is a whole number of units of 2^-1074, so that sums, products and
-- comparisons are those of the integers, and one rounding step ends each operation. The sign is kept apart,
-- so that there are two zeros.
inductive Binary64
  | finite (negative : Bool) (units : Nat)
  | infinite (negative : Bool)
  | nan
deriving DecidableEq, Repr

namespace Binary64

def one : Nat := twoTo 1074

-- The first magnitude, in units, that the format has no room for.
def limit : Nat := twoTo 2098

def nearest (num den : Nat) : Nat :=
  let quotient := num / den
  let remainder := num % den
  if 2 * remainder < den then quotient
  else if 2 * remainder = den ∧ quotient % 2 = 0 then quotient
  else quotient + 1

-- The multiple of a power of two with at most 53 significant bits that is nearest to `num / den`.
def nearestUnits (num den : Nat) : Nat :=
  let grain := twoTo (Nat.log2 (num / den) - 52)
  nearest num (den * grain) * grain

def ofUnits (negative : Bool) (num den : Nat) : Binary64 :=
  let units := nearestUnits num den
  if units < limit then .finite negative units else .infinite negative

def ofQuotient (negative : Bool) (num den : Nat) : Binary64 := ofUnits negative (num * one) den

def ofNat (n : Nat) : Binary64 := ofQuotient false n 1

def ofInt (n : Int) : Binary64 := ofQuotient (n < 0) n.natAbs 1

def zero : Binary64 := .finite false 0

instance (n : Nat) : OfNat Binary64 n := ⟨ofNat n⟩

def isFinite : Binary64 → Bool
  | .finite _ _ => true
  | _ => false

def negate : Binary64 → Binary64
  | .finite negative units => .finite (!negative) units
  | .infinite negative => .infinite (!negative)
  | .nan => .nan

def magnitude : Binary64 → Binary64
  | .finite _ units => .finite false units
  | .infinite _ => .infinite false
  | .nan => .nan

def unsignedZero : Binary64 → Binary64
  | .finite negative units => .finite (negative && units != 0) units
  | x => x

def signed (negative : Bool) (units : Nat) : Int :=
  if negative then - Int.ofNat units else Int.ofNat units

-- Opposite numbers add up to the positive zero.
def add : Binary64 → Binary64 → Binary64
  | .finite s a, .finite t b =>
    if s = t then ofUnits s (a + b) 1
    else
      let total := signed s a + signed t b
      ofUnits (total < 0) total.natAbs 1
  | .infinite s, .infinite t => if s = t then .infinite s else .nan
  | .infinite s, .finite _ _ => .infinite s
  | .finite _ _, .infinite t => .infinite t
  | .nan, _ => .nan
  | _, .nan => .nan

def sub (x y : Binary64) : Binary64 := add x (negate y)

def mul : Binary64 → Binary64 → Binary64
  | .finite s a, .finite t b => ofUnits (s != t) (a * b) one
  | .infinite s, .infinite t => .infinite (s != t)
  | .infinite s, .finite t b => if b = 0 then .nan else .infinite (s != t)
  | .finite s a, .infinite t => if a = 0 then .nan else .infinite (s != t)
  | .nan, _ => .nan
  | _, .nan => .nan

instance : Add Binary64 := ⟨add⟩
instance : Sub Binary64 := ⟨sub⟩
instance : Mul Binary64 := ⟨mul⟩

-- The place of a number on the line of units; the infinities stand at the limits.
def position? : Binary64 → Option Int
  | .finite negative units => some (signed negative units)
  | .infinite negative => some (signed negative limit)
  | .nan => none

def lessThan (x y : Binary64) : Bool :=
  match position? x, position? y with
  | some p, some q => p < q
  | _, _ => false

def atMost (x y : Binary64) : Bool :=
  match position? x, position? y with
  | some p, some q => p ≤ q
  | _, _ => false

def sameNumber (x y : Binary64) : Bool :=
  match position? x, position? y with
  | some p, some q => p == q
  | _, _ => false

def isWhole : Binary64 → Bool
  | .finite _ units => units % one == 0
  | _ => false

def truncate? : Binary64 → Option Int
  | .finite negative units => some (signed negative (units / one))
  | _ => none

def floor? : Binary64 → Option Int
  | .finite negative units => some (signed negative units / Int.ofNat one)
  | _ => none

def roundPlaces (places : Nat) : Binary64 → Binary64
  | .finite negative units => ofQuotient negative (nearest (units * tenTo places) one) (tenTo places)
  | x => x

def bits : Binary64 → Nat
  | .finite negative units =>
    let sign := if negative then twoTo 63 else 0
    let shift := Nat.log2 units - 52
    if units < twoTo 52 then sign + units
    else sign + (shift + 1) * twoTo 52 + (units / twoTo shift - twoTo 52)
  | .infinite negative => (if negative then twoTo 63 else 0) + 2047 * twoTo 52
  | .nan => 2047 * twoTo 52 + twoTo 51

end Binary64
end UtilityCss
