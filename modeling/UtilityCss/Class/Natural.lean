import UtilityCss.Error
import UtilityCss.Text.Digit

namespace UtilityCss
open Text

-- Runs of digits compare as numbers, the rest by code points, and a number comes before a text.
inductive NaturalPart
  | number (n : Nat)
  | text (s : String)
deriving DecidableEq, Repr

namespace NaturalPart

def kind : NaturalPart → Nat
  | number _ => 0
  | text _ => 1

def numberValue : NaturalPart → Nat
  | number n => n
  | text _ => 0

def textValue : NaturalPart → String
  | number _ => ""
  | text s => s

instance : Ord NaturalPart :=
  ⟨compareLex (compareOn kind) (compareLex (compareOn numberValue) (compareOn textValue))⟩

def runs (cs : List Char) : List (List Char) := cs.splitBy fun a b => isDigit a == isDigit b

-- A superscript between digits looks like a digit and is none.
def ofRun (run : List Char) : Except Error NaturalPart :=
  if run.all isDigit then
    if numeralLimit < run.length then .error (.overlongNumeral run.length)
    else .ok (.number (numeralValue run))
  else if run.all isDigitLike then .error (.unreadableNumeral 10 (String.ofList run))
  else .ok (.text (String.ofList run))

-- The parts by which a text is compared; a run that looks like a numeral but writes none has no place
-- in the order.
def key (s : String) : Except Error (List NaturalPart) := (runs s.toList).mapM ofRun

end NaturalPart
end UtilityCss
