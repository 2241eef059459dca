import UtilityCss.Text.Lowercase
import UtilityCss.Text.Split
import UtilityCss.Text.Search

namespace UtilityCss.Css
open Text

def isHexDigit (c : Char) : Bool :=
  (0x30 ≤ c.toNat && c.toNat ≤ 0x39) || (0x61 ≤ c.toNat && c.toNat ≤ 0x66)

def longHex? : List Char → Option (List Char)
  | '#' :: digits =>
    if (digits.length == 3 || digits.length == 4) && digits.all isHexDigit then
      some ('#' :: digits.flatMap fun c => [c, c])
    else none
  | _ => none

def colorFunctions : List String :=
  ["rgb", "rgba", "hsl", "hsla", "hwb", "lab", "lch", "oklab", "oklch", "color"]

def isLowerLetter (c : Char) : Bool := 0x61 ≤ c.toNat && c.toNat ≤ 0x7a

def isColorCall (cs : List Char) : Bool :=
  colorFunctions.contains (String.ofList (cs.takeWhile isLowerLetter)) &&
    ((cs.dropWhile isLowerLetter).dropWhile isBlank).head? == some '('

-- A call loses the spaces between its components as well, and tells no more than what they are one after
-- the other.
def canonicalColorText (cs : List Char) : List Char :=
  match longHex? cs with
  | some long => long
  | none => if isColorCall cs then cs.filter fun c => !isBlank c else cs

def canonicalColor (value : String) : String :=
  String.ofList (canonicalColorText (lowercase (trim value)).toList)

end UtilityCss.Css
