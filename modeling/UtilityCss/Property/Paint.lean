import UtilityCss.Property.Match

namespace UtilityCss.Property
open Text Css

def builtinColors : List (String × String) :=
  [("black", "black"), ("white", "white"), ("transparent", "transparent"), ("currentcolor", "current"),
    ("current", "current"), ("inherit", "inherit")]

-- The class of a colour. A custom property is never looked up in the theme.
def askColor (stem value : String) : Inquiry Match :=
  let raw := canonical value
  if raw = "" then return Match.none
  else if beginsWith "var(" raw then return Match.single (arbitraryClass stem raw)
  else
    let name := canonicalColor raw
    match Entries.find? name builtinColors with
    | some builtin => return Match.single (stem ++ "-" ++ builtin)
    | none =>
      return Match.ofVerdict (fun token => stem ++ "-" ++ token) stem name (← Inquiry.verdict .colors name)

def color (stem : String) : Matcher := fun ctx value => (askColor stem value).judged ctx

def imageFunctions : List String := ["linear-gradient(", "radial-gradient(", "conic-gradient(", "url("]

def backgroundImage : Matcher := fun _ value =>
  let value := canonical value
  if value = "" then Match.none
  else if value = "none" then Match.single "bg-none"
  else Match.single (arbitraryClass "bg" value)

def askBackground (ctx : Context) (value : String) : Inquiry Match :=
  match values value with
  | [] => return Match.none
  | [part] =>
    if part = "none" ∨ beginsWithAny imageFunctions part then return backgroundImage ctx part
    else askColor "bg" part
  | _ => return Match.single (arbitraryClass "bg" (canonical value))

def background : Matcher := Asker.matcher askBackground

end UtilityCss.Property
