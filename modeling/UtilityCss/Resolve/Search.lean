import UtilityCss.Resolve.Nearest
import UtilityCss.Resolve.Profile
import UtilityCss.Resolve.Verdict

namespace UtilityCss
open Text

namespace Profile

def exactToken? (profile : Profile) (raw : String) (scale : Scale) : Option String :=
  (scale.entries.find? fun entry => profile.canonical entry.2 == profile.canonical raw).map (·.1)

def measured (gauge : Gauge) (scale : Scale) : Entries String Binary64 :=
  Entries.ofList (scale.entries.filterMap fun entry =>
    (gauge.measure? entry.2).map fun measure => (entry.1, measure))

-- The nearest token within the threshold; a threshold of zero or less admits none.
def nearToken? (gauge : Gauge) (thresholds : Thresholds) (raw : String) (scale : Scale) :
    Option Nearest := do
  let threshold := gauge.threshold thresholds
  if threshold.atMost .zero then none
  else
    let value ← gauge.measure? raw
    let nearest ← Nearest.among? value (measured gauge scale)
    if threshold.lessThan nearest.distance then none else some nearest

def search? (profile : Profile) (ctx : Context) (raw : String) (scale : Scale) (layer : LayerName) :
    Option Verdict :=
  match profile.exactToken? raw scale with
  | some token => some (.exact token (some layer) false none)
  | none =>
    if ctx.approximate && !ctx.strict then
      match profile.gauge? with
      | none => none
      | some gauge =>
        (nearToken? gauge ctx.thresholds raw scale).map fun nearest =>
          .approximate nearest.token nearest.distance layer false
            (profile.approximateWarning gauge raw nearest.token nearest.distance)
    else none

def asFallback (profile : Profile) (raw : String) : Verdict → Verdict
  | .exact token _ _ _ =>
    .exact token (some .legacy) true (some (profile.fallbackWarning raw token))
  | .approximate token distance _ _ warning =>
    .approximate token distance .legacy true ("v3-fallback " ++ warning)
  | .miss warning => .miss warning

def missed (profile : Profile) (ctx : Context) (consulted : Bool) (raw : String) : Verdict :=
  if ctx.strict && consulted then .miss (some (profile.missWarning raw)) else .silentMiss

def searchIn? (profile : Profile) (ctx : Context) (raw : String) (layer : LayerName) : Option Verdict :=
  let scale := ctx.scale layer profile.scale
  if scale.isEmpty then none else profile.search? ctx raw scale layer

def speaks (profile : Profile) (ctx : Context) (layer : LayerName) : Bool :=
  !(ctx.scale layer profile.scale).isEmpty

def resolveLegacy (profile : Profile) (ctx : Context) (consulted : Bool) (raw : String) : Verdict :=
  match profile.searchIn? ctx raw .legacy with
  | some verdict =>
    match ctx.version with
    | .current => profile.asFallback raw verdict
    | .legacy => verdict
  | none => profile.missed ctx (consulted || profile.speaks ctx .legacy) raw

-- The current layer speaks first. The legacy layer is asked when the current one has no opinion, and what
-- it finds under the current version is marked.
def resolve (profile : Profile) (ctx : Context) (raw : String) : Verdict :=
  match ctx.version with
  | .legacy => profile.resolveLegacy ctx false raw
  | .current =>
    match profile.searchIn? ctx raw .current with
    | some verdict => verdict
    | none =>
      if ctx.strict && profile.speaks ctx .current then .miss (some (profile.missWarning raw))
      else profile.resolveLegacy ctx (profile.speaks ctx .current) raw

end Profile

-- The verdict on a value. A value of blanks only, and a name that no resolvable scale has, are silent
-- misses.
def resolve (ctx : Context) (scale : ScaleName) (value : String) : Verdict :=
  let raw := trim value
  if raw = "" then .silentMiss
  else match Profile.of? scale with
    | some profile => profile.resolve ctx raw
    | none => .silentMiss

def resolveNamed (ctx : Context) (scale value : String) : Verdict :=
  match ScaleName.ofText? scale with
  | some name => resolve ctx name value
  | none => .silentMiss

end UtilityCss
