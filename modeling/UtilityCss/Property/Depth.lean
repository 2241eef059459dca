import UtilityCss.Css.Quantity
import UtilityCss.Property.Match

namespace UtilityCss.Property
open Text Css

def stackLevels : List String := ["0", "10", "20", "30", "40", "50", "auto"]

-- Known levels, a known level with a minus, or any other text of digits after minus signs.
def zIndex : Matcher := fun _ value =>
  let value := canonical value
  if stackLevels.contains value then Match.single ("z-" ++ value)
  else
    let digits := value.toList.dropWhile (· == '-')
    if digits != [] && digits.all isDigitLike then
      let level := String.ofList (value.toList.drop 1)
      if beginsWith "-" value && stackLevels.contains level then Match.single ("-z-" ++ level)
      else Match.single (arbitraryClass "z" value)
    else Match.none

def opacitySteps : List Int := (List.range 21).map fun n => Int.ofNat (5 * n)

def opacityPercent? (value : String) : Option Binary64 :=
  match Quantity.read? value with
  | some ⟨number, .percent⟩ => some number.toBinary64
  | some ⟨number, .bare⟩ => some (number.toBinary64 * 100)
  | _ => none

def opacityStep? (percent : Binary64) : Option Int :=
  let rounded := percent.roundPlaces 6
  if rounded.isWhole then rounded.truncate?.filter opacitySteps.contains else none

def opacity : Matcher := fun _ value =>
  let value := canonical value
  match opacityPercent? value with
  | none => Match.none
  | some percent =>
    match opacityStep? percent with
    | some step => Match.single ("opacity-" ++ toString step)
    | none => Match.single (arbitraryClass "opacity" value)

end UtilityCss.Property
