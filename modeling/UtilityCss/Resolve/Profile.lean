import UtilityCss.Css.Color
import UtilityCss.Css.Quantity
import UtilityCss.Number.Places
import UtilityCss.Theme.Context

namespace UtilityCss

structure Gauge where
  measure? : String → Option Binary64
  threshold : Thresholds → Binary64
  places : Nat
  unit : String

structure Profile where
  scale : ScaleName
  label : String
  canonical : String → String
  gauge? : Option Gauge

namespace Profile

def pixelGauge (threshold : Thresholds → Binary64) : Gauge :=
  ⟨Css.pixels? Css.defaultFontPx, threshold, 1, "px"⟩

-- The profile of a scale; screens are no scale that values are resolved against. Colours are never
-- near each other.
def of? : ScaleName → Option Profile
  | .spacing => some ⟨.spacing, "spacing", Css.canonical, some (pixelGauge (·.spacing))⟩
  | .fontSize => some ⟨.fontSize, "font-size", Css.canonical, some (pixelGauge (·.font))⟩
  | .lineHeight =>
    some ⟨.lineHeight, "line-height", Css.canonical, some ⟨Css.bareNumber?, (·.font), 2, ""⟩⟩
  | .radius => some ⟨.radius, "border-radius", Css.canonical, some (pixelGauge (·.radius))⟩
  | .colors => some ⟨.colors, "color", Css.canonicalColor, none⟩
  | .screens => none

def approximateWarning (profile : Profile) (gauge : Gauge) (raw token : String) (distance : Binary64) :
    String :=
  "approximate: " ++ profile.label ++ " " ++ raw ++ " → " ++ token ++ " (" ++
    distance.fixed gauge.places ++ gauge.unit ++ " difference)"

def fallbackWarning (profile : Profile) (raw token : String) : String :=
  "v3-fallback: using legacy theme for " ++ profile.label ++ " value " ++ raw ++ " → " ++ token

def missWarning (profile : Profile) (raw : String) : String :=
  "token-miss: no exact match for " ++ profile.label ++ " value " ++ raw

end Profile
end UtilityCss
