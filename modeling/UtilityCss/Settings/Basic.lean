import UtilityCss.Theme.Context

namespace UtilityCss

inductive ColorEntry
  | single (value : String)
  | shades (entries : Entries String String)
deriving DecidableEq, Repr

inductive SizeEntry
  | single (value : String)
  | list (items : List Data)

structure ScaleSettings where
  spacing : Entries String String
  colors : Entries String ColorEntry
  fontSize : Entries String SizeEntry
  lineHeight : Entries String String
  radius : Entries String String
  screens : Entries String String

structure Settings where
  version : LayerName
  strict : Bool
  approximate : Bool
  thresholds : Thresholds
  screens : Entries String Int
  cache : Bool
  legacy : Option ScaleSettings
  current : Option ScaleSettings

namespace ScaleSettings

def empty : ScaleSettings := ⟨[], [], [], [], [], []⟩

def textEntries (entries : Entries String String) : List (Scalar × Data) :=
  entries.map fun row => (.text row.1, .text row.2)

def ColorEntry.toData : ColorEntry → Data
  | .single value => .text value
  | .shades entries => .mapping (textEntries entries)

def SizeEntry.toData : SizeEntry → Data
  | .single value => .text value
  | .list items => .list items

def layer (scales : ScaleSettings) : Layer where
  spacing := .ofEntries false (textEntries scales.spacing)
  colors := .ofEntries true (scales.colors.map fun row => (.text row.1, ColorEntry.toData row.2))
  fontSize := .ofEntries false (scales.fontSize.map fun row => (.text row.1, SizeEntry.toData row.2))
  lineHeight := .ofEntries false (textEntries scales.lineHeight)
  radius := .ofEntries false (textEntries scales.radius)
  screens := .ofEntries false (textEntries scales.screens)

end ScaleSettings

namespace Settings

def standard : Settings where
  version := .current
  strict := false
  approximate := false
  thresholds := .standard
  screens := []
  cache := true
  legacy := none
  current := none

-- The theme of the settings. Without a legacy section the standard theme stands in for it; without a
-- current section there is no current layer.
def source (settings : Settings) : Source where
  legacy := match settings.legacy with
    | some scales => some scales.layer
    | none => some .standard
  current := settings.current.map (·.layer)
  version := settings.version

def context (settings : Settings) : Except Error Context :=
  settings.source.context settings.strict settings.approximate settings.thresholds settings.screens
    settings.cache

end Settings
end UtilityCss
