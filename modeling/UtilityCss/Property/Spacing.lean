import UtilityCss.Css.Box
import UtilityCss.Error
import UtilityCss.Property.Match

namespace UtilityCss.Property
open Text Css

def sizeStems : List String := ["w", "h", "min-w", "min-h", "max-w", "max-h"]

def negatableStems : List String :=
  ["m", "mx", "my", "mt", "mr", "mb", "ml", "inset", "inset-x", "inset-y", "top", "right", "bottom", "left"]

def sizeFractions : List (String × String) :=
  [("100%", "full"), ("50%", "1/2"), ("33.333333%", "1/3"), ("33.333333333%", "1/3"),
    ("66.666667%", "2/3"), ("66.666666667%", "2/3"), ("25%", "1/4"), ("75%", "3/4"), ("20%", "1/5"),
    ("40%", "2/5"), ("60%", "3/5"), ("80%", "4/5")]

def sizeKeywords : List (String × String) :=
  [("min-content", "min"), ("max-content", "max"), ("fit-content", "fit")]

def screenLengths : List (String × String) :=
  [("w", "100vw"), ("h", "100vh"), ("min-h", "100vh"), ("max-h", "100vh")]

def namedSize? (stem value : String) : Option String :=
  if sizeStems.contains stem then
    match Entries.find? value sizeFractions with
    | some name => some name
    | none => match Entries.find? value sizeKeywords with
      | some name => some name
      | none => if Entries.find? stem screenLengths = some value then some "screen" else none
  else none

def isNegated (stem value : String) : Bool := beginsWith "-" value && negatableStems.contains stem

-- A negative offset is looked up by its magnitude and has its sign before the stem.
def askSpacingToken (stem value : String) : Inquiry Match := do
  let negated := isNegated stem value
  let magnitude := if negated then String.ofList (value.toList.drop 1) else value
  let sign := if negated then "-" else ""
  return Match.ofVerdict (fun token => sign ++ stem ++ "-" ++ token) stem value
    (← Inquiry.verdict .spacing magnitude)

def askSpacing (stem value : String) : Inquiry Match :=
  let value := canonical value
  if value = "" ∨ stem = "" then return Match.none
  else if value = "0" ∨ value = "0px" then return Match.single (stem ++ "-0")
  else if value = "auto" then return Match.single (stem ++ "-auto")
  else match namedSize? stem value with
    | some name => return Match.single (stem ++ "-" ++ name)
    | none => askSpacingToken stem value

def spacingToken (stem value : String) (ctx : Context) : Match := (askSpacingToken stem value).judged ctx

def spacing (stem : String) : Matcher := fun ctx value => (askSpacing stem value).judged ctx

structure BoxStems where
  all : String
  horizontal : String
  vertical : String
  sides : Sides
deriving DecidableEq, Repr

inductive BoxKind
  | margin
  | padding
  | inset
deriving DecidableEq, Repr

namespace BoxKind

def stem : BoxKind → String
  | margin => "m"
  | padding => "p"
  | inset => "inset"

def ofStem? (name : String) : Option BoxKind := [margin, padding, inset].find? (·.stem == name)

def stems : BoxKind → BoxStems
  | margin => ⟨"m", "mx", "my", ⟨"mt", "mr", "mb", "ml"⟩⟩
  | padding => ⟨"p", "px", "py", ⟨"pt", "pr", "pb", "pl"⟩⟩
  | inset => ⟨"inset", "inset-x", "inset-y", ⟨"top", "right", "bottom", "left"⟩⟩

end BoxKind

-- The fewest stems that cover the four sides, each with the value of the sides it covers.
def decompose (stems : BoxStems) (s : Sides) : List (String × String) :=
  if s.top = s.right ∧ s.right = s.bottom ∧ s.bottom = s.left then [(stems.all, s.top)]
  else if s.top = s.bottom ∧ s.right = s.left then
    [(stems.vertical, s.top), (stems.horizontal, s.right)]
  else if s.right = s.left then
    [(stems.sides.top, s.top), (stems.horizontal, s.right), (stems.sides.bottom, s.bottom)]
  else
    [(stems.sides.top, s.top), (stems.sides.right, s.right), (stems.sides.bottom, s.bottom),
      (stems.sides.left, s.left)]

def joined (parts : List Match) : Match := parts.foldr (· ++ ·) Match.none

def askBox (kind : BoxKind) (value : String) : Inquiry Match :=
  match Sides.read? value with
  | none => return Match.none
  | some sides =>
    return joined (← Inquiry.each (fun part => askSpacing part.1 part.2) (decompose kind.stems sides))

def box (kind : BoxKind) : Matcher := fun ctx value => (askBox kind value).judged ctx

def boxNamed (name : String) (ctx : Context) (value : String) : Except Error Match :=
  match BoxKind.ofStem? name with
  | some kind => .ok (box kind ctx value)
  | none => if (Sides.read? value).isSome then .error (.unknownBox name) else .ok Match.none

def askGap (value : String) : Inquiry Match :=
  match words (canonical value) with
  | [] => return Match.none
  | [both] => askSpacing "gap" both
  | rows :: columns :: _ =>
    if rows = columns then askSpacing "gap" rows
    else return (← askSpacing "gap-y" rows) ++ (← askSpacing "gap-x" columns)

def gap : Matcher := fun ctx value => (askGap value).judged ctx

end UtilityCss.Property
