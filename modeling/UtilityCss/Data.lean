import UtilityCss.Entries
import UtilityCss.Error
import UtilityCss.Number.Shortest
import UtilityCss.Text.Quoted

namespace UtilityCss
open Text

inductive Scalar
  | null
  | bool (b : Bool)
  | int (n : Int)
  | float (x : Binary64)
  | text (s : String)
deriving DecidableEq, Repr

inductive Data
  | scalar (s : Scalar)
  | list (items : List Data)
  | mapping (entries : List (Scalar × Data))

namespace Scalar

def string : Scalar → String
  | null => "None"
  | bool true => "True"
  | bool false => "False"
  | int n => toString n
  | float x => x.text
  | text s => s

def shown : Scalar → String
  | text s => quoted s
  | s => s.string

-- Truth values and numbers by their worth, in the units of the number format.
def units? : Scalar → Option Int
  | bool b => some (if b then Int.ofNat Binary64.one else 0)
  | int n => some (n * Int.ofNat Binary64.one)
  | float (.finite negative units) => some (Binary64.signed negative units)
  | _ => none

def isWritable : Scalar → Bool
  | int n => n.natAbs < tenTo numeralLimit
  | _ => true

-- Whether two keys of a mapping are one: equal numbers are, whatever their form, and NaN is never.
def sameKey (a b : Scalar) : Bool :=
  match a.units?, b.units? with
  | some m, some n => m == n
  | none, none => a == b && a != .float .nan
  | _, _ => false

end Scalar

namespace Data

def null : Data := .scalar .null

instance : Inhabited Data := ⟨null⟩

def text (s : String) : Data := .scalar (.text s)
def int (n : Int) : Data := .scalar (.int n)
def bool (b : Bool) : Data := .scalar (.bool b)
def float (x : Binary64) : Data := .scalar (.float x)

def ofPairs (pairs : List (Scalar × Data)) : Data :=
  .mapping (Entries.ofListBy Scalar.sameKey pairs)

mutual
def shown : Data → String
  | .scalar s => s.shown
  | .list items => "[" ++ String.intercalate ", " (shownItems items) ++ "]"
  | .mapping entries => "\x7b" ++ String.intercalate ", " (shownEntries entries) ++ "\x7d"
def shownItems : List Data → List String
  | [] => []
  | item :: rest => item.shown :: shownItems rest
def shownEntries : List (Scalar × Data) → List String
  | [] => []
  | (key, value) :: rest => (key.shown ++ ": " ++ value.shown) :: shownEntries rest
end

def string : Data → String
  | .scalar s => s.string
  | collection => collection.shown

mutual
def isWritable : Data → Bool
  | .scalar s => s.isWritable
  | .list items => areWritable items
  | .mapping entries => areWritableEntries entries
def areWritable : List Data → Bool
  | [] => true
  | item :: rest => item.isWritable && areWritable rest
def areWritableEntries : List (Scalar × Data) → Bool
  | [] => true
  | (key, value) :: rest => key.isWritable && value.isWritable && areWritableEntries rest
end

def isText : Data → Bool
  | .scalar (.text _) => true
  | _ => false

def kindName : Data → String
  | .scalar .null => "NoneType"
  | .scalar (.bool _) => "bool"
  | .scalar (.int _) => "int"
  | .scalar (.float _) => "float"
  | .scalar (.text _) => "str"
  | .list _ => "list"
  | .mapping _ => "dict"

def holdsNothing : Data → Bool
  | .scalar .null => true
  | .scalar (.bool b) => !b
  | .scalar (.int n) => n == 0
  | .scalar (.float x) => x.sameNumber .zero
  | .scalar (.text s) => s == ""
  | .list items => items.isEmpty
  | .mapping entries => entries.isEmpty

end Data
end UtilityCss
