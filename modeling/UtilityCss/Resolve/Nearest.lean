import UtilityCss.Number.Binary64
import UtilityCss.Entries

namespace UtilityCss

structure Nearest where
  token : String
  value : Binary64
  distance : Binary64
deriving DecidableEq, Repr

namespace Nearest

def candidate (value : Binary64) (entry : String × Binary64) : Nearest :=
  ⟨entry.1, entry.2, (value - entry.2).magnitude⟩

-- Only a smaller distance displaces a candidate, so the first of equally near ones is kept.
def closer (best next : Nearest) : Nearest :=
  if next.distance.lessThan best.distance then next else best

def among? (value : Binary64) : List (String × Binary64) → Option Nearest
  | [] => none
  | first :: rest =>
    some (rest.foldl (fun best entry => closer best (candidate value entry)) (candidate value first))

end Nearest
end UtilityCss
