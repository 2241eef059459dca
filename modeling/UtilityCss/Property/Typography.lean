import UtilityCss.Property.Match

namespace UtilityCss.Property
open Css

def askScale (scale : ScaleName) (stem value : String) : Inquiry Match :=
  let value := canonical value
  if value = "" then return Match.none
  else return Match.ofVerdict (fun token => stem ++ "-" ++ token) stem value (← Inquiry.verdict scale value)

def fontSize : Matcher := fun ctx value => (askScale .fontSize "text" value).judged ctx

def lineHeight : Matcher := fun ctx value => (askScale .lineHeight "leading" value).judged ctx

def named (stem : String) (table : List (String × String)) : Matcher := fun _ value =>
  let value := canonical value
  match Entries.find? value table with
  | some name => Match.single (stem ++ "-" ++ name)
  | none => Match.single (arbitraryClass stem value)

def letterSpacings : List (String × String) :=
  [("-0.05em", "tighter"), ("-0.025em", "tight"), ("0", "normal"), ("0px", "normal"), ("0em", "normal"),
    ("normal", "normal"), ("0.025em", "wide"), ("0.05em", "wider"), ("0.1em", "widest")]

def fontWeights : List (String × String) :=
  [("100", "thin"), ("200", "extralight"), ("300", "light"), ("400", "normal"), ("normal", "normal"),
    ("500", "medium"), ("600", "semibold"), ("700", "bold"), ("bold", "bold"), ("800", "extrabold"),
    ("900", "black")]

def letterSpacing : Matcher := named "tracking" letterSpacings

def fontWeight : Matcher := named "font" fontWeights

end UtilityCss.Property
