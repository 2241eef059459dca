import UtilityCss.Text.Quoted

namespace UtilityCss
open Text

inductive Error
  | unreadableNumeral (base : Nat) (text : String)
  | overlongNumeral (digits : Nat)
  | unwritableInteger
  | quotientTooLarge
  | integerTooLarge
  | infiniteInteger
  | noCharacter
  | overlongCode
  | notLayer (kind : String)
  | notScale (kind : String)
  | unknownBox (kind : String)
  | unknownSelector (selector : String)
deriving DecidableEq, Repr

-- The most digits that an integer may have where it is read or written in base ten.
def numeralLimit : Nat := 4300

def numeralLimitNote : String := "Exceeds the limit (4300 digits) for integer string conversion"

def quotationLimit : Nat := 200

def Error.message : Error → String
  | unreadableNumeral base text =>
    "invalid literal for int() with base " ++ toString base ++ ": " ++
      String.ofList ((quoted text).toList.take quotationLimit)
  | overlongNumeral digits =>
    numeralLimitNote ++ ": value has " ++ toString digits ++
      " digits; use sys.set_int_max_str_digits() to increase the limit"
  | unwritableInteger =>
    numeralLimitNote ++ "; use sys.set_int_max_str_digits() to increase the limit"
  | quotientTooLarge => "integer division result too large for a float"
  | integerTooLarge => "int too large to convert to float"
  | infiniteInteger => "cannot convert float infinity to integer"
  | noCharacter => "chr() arg not in range(0x110000)"
  | overlongCode => "int too large to convert to C int"
  | notLayer kind => "'" ++ kind ++ "' object has no attribute 'get'"
  | notScale kind => "'" ++ kind ++ "' object has no attribute 'items'"
  | unknownBox kind => quoted kind
  | unknownSelector selector => quoted selector

end UtilityCss
