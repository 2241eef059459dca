import UtilityCss.Css.Value
import UtilityCss.Number.Decimal

namespace UtilityCss.Css

inductive LengthUnit
  | px
  | rem
  | em
  | percent
  | bare
deriving DecidableEq, Repr

structure Quantity where
  number : Decimal
  unit : LengthUnit
deriving DecidableEq, Repr

def LengthUnit.ofText? : List Char → Option LengthUnit
  | [] => some .bare
  | ['%'] => some .percent
  | ['p', 'x'] => some .px
  | ['e', 'm'] => some .em
  | ['r', 'e', 'm'] => some .rem
  | _ => none

def Quantity.read? (value : String) : Option Quantity := do
  let (number, rest) ← Decimal.readLeading? (canonical value).toList
  let unit ← LengthUnit.ofText? rest
  return ⟨number, unit⟩

def Quantity.amount (q : Quantity) : Binary64 := q.number.toBinary64

def isIn (unit : LengthUnit) (value : String) : Bool :=
  match Quantity.read? value with
  | some q => q.unit == unit
  | none => false

def amountIn? (unit : LengthUnit) (value : String) : Option Binary64 :=
  match Quantity.read? value with
  | some q => if q.unit == unit then some q.amount else none
  | none => none

def defaultFontPx : Binary64 := 16

-- The length in pixels; a bare number counts as pixels, a percentage has no length of its own.
def Quantity.pixels? (base : Binary64) (q : Quantity) : Option Binary64 :=
  match q.unit with
  | .px | .bare => some q.amount
  | .rem | .em => some (q.amount * base)
  | .percent => none

def pixels? (base : Binary64) (value : String) : Option Binary64 :=
  (Quantity.read? value).bind (·.pixels? base)

def bareNumber? (value : String) : Option Binary64 := amountIn? .bare value

end UtilityCss.Css
