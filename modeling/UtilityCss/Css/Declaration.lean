import UtilityCss.Text.Blank
import UtilityCss.Text.Lowercase

namespace UtilityCss.Css
open Text

structure Declaration where
  property : String
  value : String
  variants : List String
deriving DecidableEq, Repr

structure Rule where
  selector : String
  declarations : List Declaration
deriving DecidableEq, Repr

def propertyName (property : String) : String := lowercase (trim property)

def Declaration.name (d : Declaration) : String := propertyName d.property

def Declaration.line (d : Declaration) : String := d.property ++ ": " ++ d.value ++ ";"

end UtilityCss.Css
