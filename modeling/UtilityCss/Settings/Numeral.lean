import UtilityCss.Error
import UtilityCss.Number.Decimal
import UtilityCss.Settings.Issue

namespace UtilityCss.Settings
open Text

def doubled (c : Char) : List Char → Bool
  | a :: b :: rest => (a == c && b == c) || doubled c (b :: rest)
  | _ => false

def withoutUnderscores? (cs : List Char) : Option (List Char) :=
  if cs.head? == some '_' || cs.getLast? == some '_' || doubled '_' cs then none
  else some (cs.filter (· != '_'))

def numberText? (s : String) : Option Binary64 :=
  if s.toList.contains '_' then
    (withoutUnderscores? s.toList).bind fun cs =>
      Binary64.read? (fun _ => false) Char.isDigit (String.ofList cs)
  else Binary64.read? isSpace Char.isDigit s

def beginsWhole (c : Char) : Bool := c == '-' || (c.isDigit && c != '0')

-- What is left after the zeros, and the underscores among them, with which a text begins. The last of
-- these characters is kept if no other digit follows. A minus may stand behind them.
def afterZeros? (last : Char) : List Char → Option (List Char)
  | [] => some [last]
  | c :: rest =>
    if c == '0' || c == '_' then afterZeros? c rest
    else if c == '.' then some (last :: c :: rest)
    else if beginsWhole c then some (c :: rest)
    else none

def withoutZeros? : List Char → Option (List Char)
  | [] => none
  | c :: rest =>
    if c == '0' then afterZeros? c rest else if beginsWhole c then some (c :: rest) else none

def withoutDecimals (cs : List Char) : List Char :=
  match cs.dropWhile (· != '.') with
  | _ :: first :: more =>
    if (first :: more).all (· == '0') then cs.takeWhile (· != '.') else cs
  | _ => cs

-- The short form of an unsigned text. Underscores that stand where they must not are left in it.
def magnitudeForm? (cs : List Char) : Option (List Char) :=
  (withoutZeros? cs).map fun cs =>
    let whole := withoutDecimals cs
    (withoutUnderscores? whole).getD whole

def wholeForm? : List Char → Option (List Char)
  | '-' :: rest => (magnitudeForm? rest).map ('-' :: ·)
  | '+' :: '-' :: _ => none
  | '+' :: rest => magnitudeForm? rest
  | cs => magnitudeForm? cs

def wholeLength (cs : List Char) : Nat :=
  let (negative, body) := Decimal.takeMinus cs
  match body.takeWhile Char.isDigit with
  | [] => 0
  | '0' :: _ :: _ => 0
  | digits => digits.length + (if negative then 1 else 0)

def isOverlong (cs : List Char) : Bool := numeralLimit < wholeLength cs

def wholeValue? (cs : List Char) : Option Int :=
  if wholeLength cs = 0 || wholeLength cs < cs.length || isOverlong cs then none
  else
    let (negative, digits) := Decimal.takeMinus cs
    some (if negative then - (numeralValue digits : Int) else numeralValue digits)

-- The whole number that a text writes. Only a text that begins with a number is refused for its length;
-- what is too long in its short form cannot be read.
def integerText (s : String) : Except Fault Int :=
  if isOverlong s.toList then .error .overlongInteger
  else match (wholeForm? (stripped isSpace s.toList)).bind wholeValue? with
    | some n => .ok n
    | none => .error .unreadableInteger

-- Whole numbers given as fractions have to fit a machine word.
def fitsWord (n : Int) : Bool := n.natAbs < twoTo 63

def integerOfNumber (x : Binary64) : Except Fault Int :=
  match x.truncate? with
  | none => .error .infiniteInteger
  | some n =>
    if !x.isWhole then .error .fractionalInteger
    else if fitsWord n then .ok n
    else .error .overlongInteger

end UtilityCss.Settings
