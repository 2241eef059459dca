import UtilityCss.Css.Declaration
import UtilityCss.Property.Border
import UtilityCss.Property.Depth
import UtilityCss.Property.Keyword
import UtilityCss.Property.Typography

namespace UtilityCss

abbrev Registry := Entries String Matcher

abbrev Askers := Entries String Asker

def Askers.registry (askers : Askers) : Registry := Entries.mapValues Asker.matcher askers

def Registry.askers (registry : Registry) : Askers := Entries.mapValues Matcher.asker registry

def Registry.lengthStems : List (String × String) :=
  [("margin-top", "mt"), ("margin-right", "mr"), ("margin-bottom", "mb"), ("margin-left", "ml"),
    ("padding-top", "pt"), ("padding-right", "pr"), ("padding-bottom", "pb"), ("padding-left", "pl"),
    ("width", "w"), ("height", "h"), ("min-width", "min-w"), ("min-height", "min-h"),
    ("max-width", "max-w"), ("max-height", "max-h"), ("top", "top"), ("right", "right"),
    ("bottom", "bottom"), ("left", "left"), ("row-gap", "gap-y"), ("column-gap", "gap-x")]

def Registry.colorStems : List (String × String) :=
  [("color", "text"), ("background-color", "bg"), ("border-color", "border"), ("outline-color", "outline"),
    ("text-decoration-color", "decoration"), ("fill", "fill"), ("stroke", "stroke")]

namespace Askers
open Property

def boxes : Askers :=
  [("margin", fun _ => askBox .margin), ("padding", fun _ => askBox .padding),
    ("inset", fun _ => askBox .inset)]

def lengths : Askers := Registry.lengthStems.map fun row => (row.1, fun _ => askSpacing row.2)

def colors : Askers := Registry.colorStems.map fun row => (row.1, fun _ => askColor row.2)

def type : Askers :=
  [("font-size", fun _ => askScale .fontSize "text"), ("line-height", fun _ => askScale .lineHeight "leading"),
    ("letter-spacing", letterSpacing.asker), ("font-weight", fontWeight.asker),
    ("font-style", (keyword fontStyle).asker), ("text-align", (keyword textAlign).asker),
    ("text-transform", (keyword textTransform).asker),
    ("text-decoration-line", (keyword textDecoration).asker)]

def borders : Askers :=
  [("border", askBorder), ("border-radius", fun _ => askRadius), ("border-width", borderWidth.asker),
    ("border-style", borderStyle.asker)]

def backgrounds : Askers := [("background", askBackground), ("background-image", backgroundImage.asker)]

def placement : Askers :=
  Registry.askers [("display", keyword display), ("position", keyword position),
    ("object-fit", keyword objectFit), ("visibility", keyword visibility),
    ("overflow", keyword (overflow "overflow")), ("overflow-x", keyword (overflow "overflow-x")),
    ("overflow-y", keyword (overflow "overflow-y")), ("z-index", zIndex), ("opacity", opacity),
    ("flex-direction", keyword flexDirection), ("flex-wrap", keyword flexWrap),
    ("justify-content", keyword justifyContent), ("align-items", keyword alignItems)]

def standard : Askers :=
  boxes ++ lengths ++ [("gap", fun _ => askGap)] ++ colors ++ type ++ borders ++ backgrounds ++ placement

end Askers

def handler? {α : Type} (handlers : Entries String α) (property value : String) : Option α :=
  if Text.trim value = "" then none else Entries.find? (Css.propertyName property) handlers

namespace Registry

def standard : Registry := Askers.standard.registry

def names (registry : Registry) : List String :=
  (Entries.keys registry).mergeSort fun a b => (compare a b).isLE

def arbitraryWarning (property value : String) : String :=
  "Used arbitrary value for '" ++ property ++ ": " ++ value ++ "'"

def noted (name raw : String) (found : Match) : Match :=
  if found.classes.any isArbitrary then ⟨found.classes, found.warnings ++ [arbitraryWarning name raw]⟩ else found

def matchDeclaration (registry : Registry) (ctx : Context) (property value : String) : Match :=
  match handler? registry property value with
  | none => Match.none
  | some matcher => noted (Css.propertyName property) (Text.trim value) (matcher ctx (Text.trim value))

end Registry

def Askers.matchDeclaration (askers : Askers) (ctx : Context) (property value : String) : Inquiry Match := do
  match handler? askers property value with
  | none => return Match.none
  | some asker =>
    return Registry.noted (Css.propertyName property) (Text.trim value) (← asker ctx (Text.trim value))

end UtilityCss
