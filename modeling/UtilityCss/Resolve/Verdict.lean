import UtilityCss.Theme.Context

namespace UtilityCss

inductive Verdict
  | exact (token : String) (layer : Option LayerName) (fallback : Bool) (warning : Option String)
  | approximate (token : String) (distance : Binary64) (layer : LayerName) (fallback : Bool)
      (warning : String)
  | miss (warning : Option String)
deriving DecidableEq, Repr

namespace Verdict

def silentMiss : Verdict := .miss none

def ofToken (token : String) : Verdict := .exact token none false none

def kindName : Verdict → String
  | exact .. => "exact"
  | approximate .. => "approximate"
  | miss _ => "miss"

def token? : Verdict → Option String
  | exact token .. => some token
  | approximate token .. => some token
  | miss _ => none

def distance? : Verdict → Option Binary64
  | exact .. => some .zero
  | approximate _ distance .. => some distance
  | miss _ => none

def warning? : Verdict → Option String
  | exact _ _ _ warning => warning
  | approximate _ _ _ _ warning => some warning
  | miss warning => warning

def layer? : Verdict → Option LayerName
  | exact _ layer _ _ => layer
  | approximate _ _ layer _ _ => some layer
  | miss _ => none

def isFallback : Verdict → Bool
  | exact _ _ fallback _ => fallback
  | approximate _ _ _ fallback _ => fallback
  | miss _ => false

def isMiss : Verdict → Bool
  | miss _ => true
  | _ => false

end Verdict
end UtilityCss
