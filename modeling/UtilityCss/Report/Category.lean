import UtilityCss.Css.Declaration
import UtilityCss.Text.Search

namespace UtilityCss
open Text

inductive PropertyCategory
  | spacing
  | color
  | typography
  | layout
  | border
  | background
  | effects
  | flexGrid
  | sizing
  | other
deriving DecidableEq, Repr

namespace PropertyCategory

def all : List PropertyCategory :=
  [spacing, color, typography, layout, border, background, effects, flexGrid, sizing, other]

def text : PropertyCategory → String
  | spacing => "spacing"
  | color => "color"
  | typography => "typography"
  | layout => "layout"
  | border => "border"
  | background => "background"
  | effects => "effects"
  | flexGrid => "flex-grid"
  | sizing => "sizing"
  | other => "other"

def named : List (String × PropertyCategory) :=
  [("color", color), ("width", sizing), ("height", sizing), ("min-width", sizing), ("min-height", sizing),
    ("max-width", sizing), ("max-height", sizing), ("display", layout), ("position", layout),
    ("top", layout), ("right", layout), ("bottom", layout), ("left", layout), ("inset", layout),
    ("z-index", layout), ("object-fit", layout), ("line-height", typography),
    ("letter-spacing", typography), ("opacity", effects), ("box-shadow", effects), ("filter", effects),
    ("mix-blend-mode", effects), ("gap", flexGrid), ("row-gap", flexGrid), ("column-gap", flexGrid),
    ("order", flexGrid)]

def stems : List (String × PropertyCategory) :=
  [("margin", spacing), ("padding", spacing), ("font-", typography), ("text-", typography),
    ("overflow", layout), ("border", border), ("outline", border), ("background", background),
    ("flex", flexGrid), ("justify-", flexGrid), ("align-", flexGrid), ("grid", flexGrid),
    ("place-", flexGrid)]

def of (property : String) : PropertyCategory :=
  let name := Css.propertyName property
  match named.find? (·.1 == name) with
  | some row => row.2
  | none => match stems.find? fun row => beginsWith row.1 name with
    | some row => row.2
    | none => other

end PropertyCategory

inductive WarningCategory
  | arbitraryValue
  | noHandler
  | approximate
  | tokenMiss
  | legacyFallback
  | other
deriving DecidableEq, Repr

namespace WarningCategory

def all : List WarningCategory :=
  [arbitraryValue, noHandler, approximate, tokenMiss, legacyFallback, other]

def text : WarningCategory → String
  | arbitraryValue => "arbitrary-value"
  | noHandler => "no-handler"
  | approximate => "approximate"
  | tokenMiss => "token-miss"
  | legacyFallback => "v3-fallback"
  | other => "other"

-- Asked in this order; the first category with a marker in the warning has it.
def markers : List (WarningCategory × List String) :=
  [(arbitraryValue, ["arbitrary value"]),
    (noHandler, ["no direct", "could not transform"]),
    (approximate, ["approximate"]),
    (tokenMiss, ["token-miss", "token not found"]),
    (legacyFallback, ["v3-fallback", "falling back to v3"])]

def of (warning : String) : WarningCategory :=
  let lowered := lowercase warning
  match markers.find? fun row => row.2.any (contains · lowered) with
  | some row => row.1
  | none => other

end WarningCategory
end UtilityCss
