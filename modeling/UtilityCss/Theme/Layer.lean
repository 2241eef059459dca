import UtilityCss.Theme.Scale

namespace UtilityCss

inductive ScaleName
  | spacing
  | colors
  | fontSize
  | lineHeight
  | radius
  | screens
deriving DecidableEq, Repr

namespace ScaleName

def all : List ScaleName := [spacing, colors, fontSize, lineHeight, radius, screens]

def text : ScaleName → String
  | spacing => "spacing"
  | colors => "colors"
  | fontSize => "font_size"
  | lineHeight => "line_height"
  | radius => "radius"
  | screens => "screens"

def ofText? (s : String) : Option ScaleName := all.find? (·.text == s)

end ScaleName

structure Layer where
  spacing : Scale
  colors : Scale
  fontSize : Scale
  lineHeight : Scale
  radius : Scale
  screens : Scale
deriving DecidableEq, Repr

namespace Layer

def empty : Layer := ⟨.empty, .empty, .empty, .empty, .empty, .empty⟩

def scale (layer : Layer) : ScaleName → Scale
  | .spacing => layer.spacing
  | .colors => layer.colors
  | .fontSize => layer.fontSize
  | .lineHeight => layer.lineHeight
  | .radius => layer.radius
  | .screens => layer.screens

def scaleNamed (layer : Layer) (name : String) : Scale :=
  match ScaleName.ofText? name with
  | some known => layer.scale known
  | none => .empty

def isEmpty (layer : Layer) : Bool := ScaleName.all.all fun name => (layer.scale name).isEmpty

def readScale (entries : List (Scalar × Data)) (name : ScaleName) : Except Error Scale :=
  match Entries.find? (.text name.text) entries with
  | some data => Scale.ofData (name == .colors) data
  | none => .ok .empty

def ofEntries (entries : List (Scalar × Data)) : Except Error Layer := do
  return {
    spacing := ← readScale entries .spacing
    colors := ← readScale entries .colors
    fontSize := ← readScale entries .fontSize
    lineHeight := ← readScale entries .lineHeight
    radius := ← readScale entries .radius
    screens := ← readScale entries .screens }

-- The layer that a mapping of scales describes; other keys are not used. A value that holds nothing
-- describes the empty layer.
def ofData : Data → Except Error Layer
  | .mapping entries => ofEntries entries
  | data => if data.holdsNothing then .ok empty else .error (.notLayer data.kindName)

end Layer
end UtilityCss
