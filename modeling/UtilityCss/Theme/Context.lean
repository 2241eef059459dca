import UtilityCss.Text.Lowercase
import UtilityCss.Theme.Standard

namespace UtilityCss
open Text

inductive LayerName
  | legacy
  | current
deriving DecidableEq, Repr

def LayerName.text : LayerName → String
  | legacy => "legacy"
  | current => "current"

structure Thresholds where
  spacing : Binary64
  font : Binary64
  radius : Binary64
deriving DecidableEq, Repr

def Thresholds.standard : Thresholds := ⟨2, 1, 2⟩

structure Context where
  current : Option Layer
  legacy : Option Layer
  version : LayerName
  strict : Bool
  approximate : Bool
  thresholds : Thresholds
  screens : Entries String Int
  cached : Bool
deriving DecidableEq, Repr

namespace Context

def layer? (ctx : Context) : LayerName → Option Layer
  | .current => ctx.current
  | .legacy => ctx.legacy

def scale (ctx : Context) (layer : LayerName) (name : ScaleName) : Scale :=
  match ctx.layer? layer with
  | some found => found.scale name
  | none => .empty

end Context

-- The whole number of pixels that a screen's value reads as, fractions dropped. A value that is no
-- number has none; an infinite one is an error.
def screenWidth? (value : String) : Except Error (Option Int) :=
  let body := (lowercase (trim value)).toList
  let body := if "px".toList.isSuffixOf body then body.take (body.length - 2) else body
  match Binary64.read? isSpace isDigit (String.ofList body) with
  | some (.infinite _) => .error .infiniteInteger
  | some x => .ok x.truncate?
  | none => .ok none

def screensOfScale (scale : Scale) : Except Error (Entries String Int) :=
  scale.entries.foldlM (fun screens entry => do
    match ← screenWidth? entry.2 with
    | some width => return Entries.put entry.1 width screens
    | none => return screens) []

def Layer.screenWidths : Option Layer → Except Error (Entries String Int)
  | some layer => screensOfScale layer.screens
  | none => .ok []

structure Source where
  legacy : Option Layer
  current : Option Layer
  version : LayerName
deriving DecidableEq, Repr

def Source.standard (version : LayerName) : Source := ⟨some .standard, none, version⟩

def Source.ofData (legacy current : Option Data) (version : LayerName) : Except Error Source := do
  let legacy ← legacy.mapM Layer.ofData
  let current ← current.mapM Layer.ofData
  return ⟨legacy, current, version⟩

-- The first of these that has any: the given ones, the current layer's, the legacy layer's, the standard.
def Source.screens (source : Source) (given : Entries String Int) :
    Except Error (Entries String Int) := do
  if !given.isEmpty then return given
  let current ← Layer.screenWidths source.current
  if !current.isEmpty then return current
  let legacy ← Layer.screenWidths source.legacy
  if !legacy.isEmpty then return legacy
  return standardScreens

def Source.context (source : Source) (strict approximate : Bool) (thresholds : Thresholds)
    (given : Entries String Int) (cached : Bool) : Except Error Context := do
  let screens ← source.screens given
  return {
    current := source.current
    legacy := source.legacy
    version := source.version
    strict := strict
    approximate := approximate
    thresholds := thresholds
    screens := screens
    cached := cached }

end UtilityCss
