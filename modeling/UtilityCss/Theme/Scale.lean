import UtilityCss.Data
import UtilityCss.Error

namespace UtilityCss

structure Scale where
  entries : List (String × String)
deriving DecidableEq, Repr

namespace Scale

def empty : Scale := ⟨[]⟩

def isEmpty (scale : Scale) : Bool := scale.entries.isEmpty

def find? (name : String) (scale : Scale) : Option String := Entries.find? name scale.entries

def names (scale : Scale) : List String := scale.entries.map (·.1)

def leaf (name : String) : Data → List (String × String)
  | .scalar .null => []
  | .mapping _ => []
  | value => [(name, value.string)]

-- The token of one entry. Of a list only the first element counts.
def plainEntry (name : String) : Data → List (String × String)
  | .list [] => []
  | .list (first :: _) => leaf name first
  | value => leaf name value

def shadeEntry (name : String) : Scalar × Data → List (String × String)
  | (shade, .scalar (.text value)) => [(name ++ "-" ++ shade.string, value)]
  | _ => []

def entryTokens (nested : Bool) : Scalar × Data → List (String × String)
  | (key, .mapping shades) => if nested then shades.flatMap (shadeEntry key.string) else []
  | (key, value) => plainEntry key.string value

def leafIsWritable (key : Scalar) : Data → Bool
  | .scalar .null => true
  | .mapping _ => true
  | value => key.isWritable && value.isWritable

def shadeIsWritable (key : Scalar) (shade : Scalar × Data) : Bool :=
  !shade.2.isText || (key.isWritable && shade.1.isWritable)

def entryIsWritable (nested : Bool) : Scalar × Data → Bool
  | (key, .mapping shades) => !nested || shades.all (shadeIsWritable key)
  | (_, .list []) => true
  | (key, .list (first :: _)) => leafIsWritable key first
  | (key, value) => leafIsWritable key value

def ofEntries (nested : Bool) (entries : List (Scalar × Data)) : Scale :=
  ⟨entries.flatMap (entryTokens nested)⟩

-- An integer that is too long to be written out is refused where a token would show it, and nowhere else.
def ofData (nested : Bool) : Data → Except Error Scale
  | .mapping entries =>
    if entries.all (entryIsWritable nested) then .ok (ofEntries nested entries) else .error .unwritableInteger
  | data => if data.holdsNothing then .ok empty else .error (.notScale data.kindName)

end Scale
end UtilityCss
