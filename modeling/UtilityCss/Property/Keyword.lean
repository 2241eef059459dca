import UtilityCss.Property.Match

namespace UtilityCss.Property
open Css

def keyword (table : List (String × String)) : Matcher := fun _ value =>
  Match.single ((Entries.find? (canonical value) table).getD "")

def display : List (String × String) :=
  [("block", "block"), ("inline", "inline"), ("inline-block", "inline-block"), ("flex", "flex"),
    ("inline-flex", "inline-flex"), ("grid", "grid"), ("inline-grid", "inline-grid"), ("table", "table"),
    ("table-row", "table-row"), ("table-cell", "table-cell"), ("contents", "contents"),
    ("list-item", "list-item"), ("flow-root", "flow-root"), ("none", "hidden")]

def position : List (String × String) :=
  ["static", "relative", "absolute", "fixed", "sticky"].map fun name => (name, name)

def objectFit : List (String × String) :=
  ["contain", "cover", "fill", "none", "scale-down"].map fun name => (name, "object-" ++ name)

def visibility : List (String × String) :=
  [("visible", "visible"), ("hidden", "invisible"), ("collapse", "collapse")]

def flexDirection : List (String × String) :=
  [("row", "flex-row"), ("row-reverse", "flex-row-reverse"), ("column", "flex-col"),
    ("column-reverse", "flex-col-reverse")]

def flexWrap : List (String × String) :=
  [("wrap", "flex-wrap"), ("nowrap", "flex-nowrap"), ("wrap-reverse", "flex-wrap-reverse")]

def justifyContent : List (String × String) :=
  [("normal", "justify-normal"), ("flex-start", "justify-start"), ("start", "justify-start"),
    ("flex-end", "justify-end"), ("end", "justify-end"), ("center", "justify-center"),
    ("space-between", "justify-between"), ("space-around", "justify-around"),
    ("space-evenly", "justify-evenly"), ("stretch", "justify-stretch")]

def alignItems : List (String × String) :=
  [("flex-start", "items-start"), ("start", "items-start"), ("flex-end", "items-end"), ("end", "items-end"),
    ("center", "items-center"), ("baseline", "items-baseline"), ("stretch", "items-stretch")]

def textAlign : List (String × String) :=
  ["left", "center", "right", "justify", "start", "end"].map fun name => (name, "text-" ++ name)

def fontStyle : List (String × String) :=
  [("italic", "italic"), ("oblique", "italic"), ("normal", "not-italic")]

def textTransform : List (String × String) :=
  [("uppercase", "uppercase"), ("lowercase", "lowercase"), ("capitalize", "capitalize"),
    ("none", "normal-case")]

def textDecoration : List (String × String) :=
  [("underline", "underline"), ("overline", "overline"), ("line-through", "line-through"),
    ("none", "no-underline")]

def overflow (stem : String) : List (String × String) :=
  ["auto", "hidden", "clip", "visible", "scroll"].map fun name => (name, stem ++ "-" ++ name)

end UtilityCss.Property
