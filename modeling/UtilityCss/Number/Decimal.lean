import UtilityCss.Number.Binary64
import UtilityCss.Text.Blank
import UtilityCss.Text.Digit

namespace UtilityCss
open Text

structure Decimal where
  negative : Bool
  digits : Nat
  exponent : Int
deriving DecidableEq, Repr

namespace Decimal

-- Exponents far outside the range of the format are settled without computing the power: ten to the
-- 400th is above every finite number, and a value below 2^-1076 rounds to zero.
def toBinary64 (x : Decimal) : Binary64 :=
  if x.digits = 0 then .finite x.negative 0
  else match x.exponent with
    | .ofNat up =>
      if 400 < up then .infinite x.negative else .ofQuotient x.negative (x.digits * tenTo up) 1
    | .negSucc below =>
      if Nat.log2 x.digits + 1077 < 3 * (below + 1) then .finite x.negative 0
      else .ofQuotient x.negative x.digits (tenTo (below + 1))

def digitRun (cs : List Char) : List Char := cs.takeWhile isDigit
def afterDigits (cs : List Char) : List Char := cs.dropWhile isDigit

def ofDigits (negative : Bool) (whole fraction : List Char) (shift : Int) : Decimal :=
  ⟨negative, numeralValue (whole ++ fraction), shift - fraction.length⟩

def takeMinus : List Char → Bool × List Char
  | '-' :: rest => (true, rest)
  | cs => (false, cs)

def takeSign : List Char → Bool × List Char
  | '-' :: rest => (true, rest)
  | '+' :: rest => (false, rest)
  | cs => (false, cs)

-- The number that a style sheet writes at the start of a text, and what follows it: an optional minus,
-- then digits with an optional point that a digit follows.
def readLeading? (cs : List Char) : Option (Decimal × List Char) :=
  let (negative, body) := takeMinus cs
  let whole := digitRun body
  match afterDigits body with
  | '.' :: rest =>
    let fraction := digitRun rest
    if fraction.isEmpty then
      if whole.isEmpty then none else some (ofDigits negative whole [] 0, '.' :: rest)
    else some (ofDigits negative whole fraction 0, afterDigits rest)
  | rest => if whole.isEmpty then none else some (ofDigits negative whole [] 0, rest)

def digitGroups? (digit : Char → Bool) : List Char → Option (List Char)
  | [] => some []
  | [c] => if digit c then some [c] else none
  | c :: '_' :: rest => if digit c then
      match rest with
      | d :: _ => if digit d then (digitGroups? digit rest).map (c :: ·) else none
      | [] => none
    else none
  | c :: rest => if digit c then (digitGroups? digit rest).map (c :: ·) else none

def isNumeralBody (digit : Char → Bool) (c : Char) : Bool := digit c || c == '_'

def readExponent? (digit : Char → Bool) : List Char → Option Int
  | [] => some 0
  | c :: rest =>
    if c == 'e' || c == 'E' then
      let (negative, body) := takeSign rest
      match digitGroups? digit body with
      | none => none
      | some [] => none
      | some ds => some (if negative then - (numeralValue ds : Int) else numeralValue ds)
    else none

def readPlain? (digit : Char → Bool) (cs : List Char) : Option Decimal := do
  let (negative, body) := takeSign cs
  let whole ← digitGroups? digit (body.takeWhile (isNumeralBody digit))
  match body.dropWhile (isNumeralBody digit) with
  | '.' :: rest =>
    let fraction ← digitGroups? digit (rest.takeWhile (isNumeralBody digit))
    if whole.isEmpty && fraction.isEmpty then none
    else
      let shift ← readExponent? digit (rest.dropWhile (isNumeralBody digit))
      return ofDigits negative whole fraction shift
  | rest =>
    if whole.isEmpty then none
    else
      let shift ← readExponent? digit rest
      return ofDigits negative whole [] shift

end Decimal

def Binary64.ofName? : List Char → Option Binary64
  | cs =>
    let (negative, name) := Decimal.takeSign cs
    if name == "inf".toList || name == "infinity".toList then some (.infinite negative)
    else if name == "nan".toList then some .nan
    else none

def asciiLower (c : Char) : Char :=
  if 0x41 ≤ c.toNat ∧ c.toNat ≤ 0x5a then Char.ofNat (c.toNat + 32) else c

def Binary64.read? (blank digit : Char → Bool) (s : String) : Option Binary64 :=
  let cs := stripped blank s.toList
  match Binary64.ofName? (cs.map asciiLower) with
  | some x => some x
  | none => (Decimal.readPlain? digit cs).map (·.toBinary64)

end UtilityCss
