import UtilityCss.Property.Paint
import UtilityCss.Property.Spacing

namespace UtilityCss.Property
open Text Css

def borderWidths : List (String × String) :=
  [("0", "border-0"), ("0px", "border-0"), ("1px", "border"), ("2px", "border-2"), ("4px", "border-4"),
    ("8px", "border-8")]

def borderStyles : List String := ["solid", "dashed", "dotted", "double", "hidden", "none"]

def radiusClass (token : String) : String :=
  if token = "DEFAULT" then "rounded" else "rounded-" ++ token

-- Circles and pills: about half of the box, or far more than any box.
def isFullRadius (value : String) : Bool :=
  match Quantity.read? value with
  | some ⟨number, .percent⟩ =>
    Binary64.atMost 45 number.toBinary64 && number.toBinary64.atMost 55
  | some ⟨number, .px⟩ => Binary64.atMost 1000 number.toBinary64
  | _ => false

def askRadius (value : String) : Inquiry Match :=
  let value := canonical value
  if value = "" then return Match.none
  else if value = "0" ∨ value = "0px" then return Match.single "rounded-none"
  else do
    let verdict ← Inquiry.verdict .radius value
    return if verdict.token?.isNone && isFullRadius value then Match.single "rounded-full"
      else Match.ofVerdict radiusClass "rounded" value verdict

def borderRadius : Matcher := fun ctx value => (askRadius value).judged ctx

def borderWidth : Matcher := fun _ value =>
  let value := canonical value
  match Entries.find? value borderWidths with
  | some name => Match.single name
  | none => Match.single (arbitraryClass "border" value)

def borderStyle : Matcher := fun _ value =>
  let value := canonical value
  if borderStyles.contains value then Match.single ("border-" ++ value) else Match.none

def isBorderWidth (part : String) : Bool :=
  (Entries.find? part borderWidths).isSome || isIn .px part || isIn .rem part || isIn .em part

def askBorderPart (ctx : Context) (part : String) : Inquiry Match :=
  if borderStyles.contains part then return borderStyle ctx part
  else if isBorderWidth part then return borderWidth ctx part
  else askColor "border" part

def askBorder (ctx : Context) (value : String) : Inquiry Match :=
  match values value with
  | ["none"] => return Match.single "border-0"
  | parts => return joined (← Inquiry.each (askBorderPart ctx) parts)

def borderPart : Matcher := Asker.matcher askBorderPart

def border : Matcher := Asker.matcher askBorder

end UtilityCss.Property
