import UtilityCss.Css.Value

namespace UtilityCss.Css
open Text

structure Sides where
  top : String
  right : String
  bottom : String
  left : String
deriving DecidableEq, Repr

def Sides.toList (sides : Sides) : List String :=
  [sides.top, sides.right, sides.bottom, sides.left]

-- One value is for all sides, two are for the vertical and the horizontal ones, and of three the middle
-- one is for both horizontal sides; values after the fourth are not used.
def Sides.ofValues? : List String → Option Sides
  | [] => none
  | [a] => some ⟨a, a, a, a⟩
  | [a, b] => some ⟨a, b, a, b⟩
  | [a, b, c] => some ⟨a, b, c, b⟩
  | a :: b :: c :: d :: _ => some ⟨a, b, c, d⟩

-- The values are cut at every blank, also at one inside a function call.
def Sides.read? (value : String) : Option Sides := Sides.ofValues? (words (canonical value))

end UtilityCss.Css
