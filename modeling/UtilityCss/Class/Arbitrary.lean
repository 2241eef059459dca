import UtilityCss.Css.Value

namespace UtilityCss
open Text

-- Each run of blanks becomes one underscore; the flag tells whether a blank came just before.
def underscored : Bool → List Char → List Char
  | _, [] => []
  | afterBlank, c :: rest =>
    if isBlank c then
      if afterBlank then underscored true rest else '_' :: underscored true rest
    else c :: underscored false rest

def arbitraryClass (stem value : String) : String :=
  let stem := trim stem
  let value := Css.canonical value
  if stem = "" ∨ value = "" then ""
  else stem ++ "-[" ++ String.ofList (underscored false value.toList) ++ "]"

def isArbitrary (name : String) : Bool :=
  name.toList.contains '[' && name.toList.contains ']'

end UtilityCss
