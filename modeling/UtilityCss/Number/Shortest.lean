import UtilityCss.Number.Decimal
import UtilityCss.Number.Places

namespace UtilityCss
namespace Binary64

def digitCount (n : Nat) : Nat := (toString n).length

def leadingPower (num den : Nat) : Int :=
  if den ≤ num then digitCount (num / den) - 1
  else - (digitCount ((den + num - 1) / num - 1) : Int)

def scaledDown (num den : Nat) (power : Int) : Nat × Nat :=
  match power with
  | .ofNat up => (num, den * tenTo up)
  | .negSucc below => (num * tenTo (below + 1), den)

-- The candidates of one grid, the nearer first; of two equally near ones the even one comes first.
def candidates (num den : Nat) : List Nat :=
  let below := num / den
  if nearest num den = below then [below, below + 1] else [below + 1, below]

def shortestDecimal? (units count : Nat) : Option (Nat × Int) :=
  let power := leadingPower units one - (count : Int) + 1
  let (num, den) := scaledDown units one power
  ((candidates num den).find? fun digits =>
    (Decimal.mk false digits power).toBinary64 == .finite false units).map (·, power)

def trimZeros (fuel digits : Nat) (power : Int) : Nat × Int :=
  match fuel with
  | 0 => (digits, power)
  | fuel + 1 =>
    if digits % 10 = 0 ∧ digits ≠ 0 then trimZeros fuel (digits / 10) (power + 1) else (digits, power)

-- Two decimals around the value are tried for 1, 2, ... 17 digits; the first length with one that reads
-- back wins.
def shortest (units : Nat) : Nat × Int :=
  match ((List.range 17).map (· + 1)).findSome? (shortestDecimal? units) with
  | some (digits, power) => trimZeros 18 digits power
  | none => (0, 0)

structure Notations where
  lowestPositional : Int
  highestPositional : Int
  exponentDigits : Nat

-- Positional from 10^-4 up to but not including 10^16; exponents have a sign and two digits or more.
def documentNotations : Notations := ⟨-4, 15, 2⟩

def positional (digits : Nat) (power : Int) : String :=
  match power with
  | .ofNat up => toString (digits * tenTo up) ++ ".0"
  | .negSucc below => pointed (below + 1) digits

def exponential (style : Notations) (digits : Nat) (power : Int) : String :=
  let count := digitCount digits
  let mantissa := if count = 1 then toString digits else pointed (count - 1) digits
  let lead := power + (count : Int) - 1
  mantissa ++ "e" ++ (if lead < 0 then "-" else "+") ++
    padLeft style.exponentDigits (toString lead.natAbs)

def textOfMagnitude (style : Notations) (units : Nat) : String :=
  if units = 0 then "0.0"
  else
    let (digits, power) := shortest units
    let lead := power + (digitCount digits : Int) - 1
    if style.lowestPositional ≤ lead ∧ lead ≤ style.highestPositional then positional digits power
    else exponential style digits power

def text : Binary64 → String
  | .finite negative units =>
    (if negative then "-" else "") ++ textOfMagnitude documentNotations units
  | .infinite negative => if negative then "-inf" else "inf"
  | .nan => "nan"

end Binary64
end UtilityCss
