import UtilityCss.Error

namespace UtilityCss

inductive Fault
  | notRootMapping (kind : String)
  | unknownVersion (shown : String)
  | unwritableInteger
  | unreadableBool
  | notBool
  | unreadableNumber
  | notNumber
  | belowZero
  | unreadableInteger
  | overlongInteger
  | fractionalInteger
  | infiniteInteger
  | notInteger
  | notText
  | notList
  | notMapping
  | notSection (name : String)
  | unknownKey
  | keyNotText
deriving DecidableEq, Repr

def Fault.message : Fault → String
  | notRootMapping kind => "expected a mapping, got " ++ kind
  | unknownVersion shown =>
    "Value error, Unknown version '" ++ shown ++
      "': expected one of ['3', '4', 'current', 'legacy', 'v3', 'v4']"
  | unwritableInteger => "Value error, " ++ Error.unwritableInteger.message
  | unreadableBool => "Input should be a valid boolean, unable to interpret input"
  | notBool => "Input should be a valid boolean"
  | unreadableNumber => "Input should be a valid number, unable to parse string as a number"
  | notNumber => "Input should be a valid number"
  | belowZero => "Input should be greater than or equal to 0"
  | unreadableInteger => "Input should be a valid integer, unable to parse string as an integer"
  | overlongInteger => "Unable to parse input string as an integer, exceeded maximum size"
  | fractionalInteger => "Input should be a valid integer, got a number with a fractional part"
  | infiniteInteger => "Input should be a finite number"
  | notInteger => "Input should be a valid integer"
  | notText => "Input should be a valid string"
  | notList => "Input should be a valid list"
  | notMapping => "Input should be a valid dictionary"
  | notSection name => "Input should be a valid dictionary or instance of " ++ name
  | unknownKey => "Extra inputs are not permitted"
  | keyNotText => "Keys should be strings"

structure Issue where
  place : List String
  fault : Fault
deriving DecidableEq, Repr

namespace Issue

def placeText (issue : Issue) : String :=
  let way := String.intercalate "." issue.place
  if way = "" then "<root>" else way

def text (issue : Issue) : String := issue.placeText ++ ": " ++ issue.fault.message

def under (key : String) (issue : Issue) : Issue := ⟨key :: issue.place, issue.fault⟩

end Issue

-- A value with all issues found while reading it. If there are any, the value is a stand-in.
structure Checked (α : Type) where
  issues : List Issue
  value : α
deriving Repr

namespace Checked

variable {α β : Type}

def valid (value : α) : Checked α := ⟨[], value⟩

def faulty (fault : Fault) (standIn : α) : Checked α := ⟨[⟨[], fault⟩], standIn⟩

def ofExcept (standIn : α) : Except Fault α → Checked α
  | .ok value => valid value
  | .error fault => faulty fault standIn

def under (key : String) (checked : Checked α) : Checked α :=
  ⟨checked.issues.map (Issue.under key), checked.value⟩

def map (f : α → β) (checked : Checked α) : Checked β := ⟨checked.issues, f checked.value⟩

def isValid (checked : Checked α) : Bool := checked.issues.isEmpty

def toExcept (checked : Checked α) : Except (List Issue) α :=
  if checked.isValid then .ok checked.value else .error checked.issues

end Checked
end UtilityCss
