import UtilityCss.Property.Border
import UtilityCss.Property.Typography

namespace UtilityCss.Property
open Text Css

variable (ctx : Context) (stem value : String)

theorem spacingToken_apply :
    spacingToken stem value ctx =
      let negated := isNegated stem value
      let magnitude := if negated then String.ofList (value.toList.drop 1) else value
      let sign := if negated then "-" else ""
      Match.ofVerdict (fun token => sign ++ stem ++ "-" ++ token) stem value (resolve ctx .spacing magnitude) := by
  simp only [spacingToken, askSpacingToken, Inquiry.judged_bind, Inquiry.judged_verdict, Inquiry.judged_pure]

theorem spacing_apply :
    spacing stem ctx value =
      let value := canonical value
      if value = "" ∨ stem = "" then Match.none
      else if value = "0" ∨ value = "0px" then Match.single (stem ++ "-0")
      else if value = "auto" then Match.single (stem ++ "-auto")
      else match namedSize? stem value with
        | some name => Match.single (stem ++ "-" ++ name)
        | none => spacingToken stem value ctx := by
  simp only [spacing, askSpacing, Inquiry.judged_ite, Inquiry.judged_pure]
  cases namedSize? stem (canonical value) <;> rfl

theorem box_apply (kind : BoxKind) :
    box kind ctx value =
      match Sides.read? value with
      | none => Match.none
      | some sides => joined ((decompose kind.stems sides).map fun part => spacing part.1 ctx part.2) := by
  unfold box askBox
  cases Sides.read? value with
  | none => rfl
  | some sides => simp only [Inquiry.judged_bind, Inquiry.judged_each, Inquiry.judged_pure, spacing]

theorem gap_apply :
    gap ctx value =
      match words (canonical value) with
      | [] => Match.none
      | [both] => spacing "gap" ctx both
      | rows :: columns :: _ =>
        if rows = columns then spacing "gap" ctx rows
        else spacing "gap-y" ctx rows ++ spacing "gap-x" ctx columns := by
  unfold gap askGap
  generalize words (canonical value) = parts
  rcases parts with _ | ⟨rows, _ | ⟨columns, _⟩⟩
  · rfl
  · rfl
  · simp only [Inquiry.judged_ite, Inquiry.judged_bind, Inquiry.judged_pure, spacing]

theorem color_apply :
    color stem ctx value =
      let raw := canonical value
      if raw = "" then Match.none
      else if beginsWith "var(" raw then Match.single (arbitraryClass stem raw)
      else
        let name := canonicalColor raw
        match Entries.find? name builtinColors with
        | some builtin => Match.single (stem ++ "-" ++ builtin)
        | none => Match.ofVerdict (fun token => stem ++ "-" ++ token) stem name (resolve ctx .colors name) := by
  simp only [color, askColor, Inquiry.judged_ite, Inquiry.judged_pure]
  cases Entries.find? (canonicalColor (canonical value)) builtinColors <;> rfl

theorem background_apply :
    background ctx value =
      match values value with
      | [] => Match.none
      | [part] =>
        if part = "none" ∨ beginsWithAny imageFunctions part then backgroundImage ctx part
        else color "bg" ctx part
      | _ => Match.single (arbitraryClass "bg" (canonical value)) := by
  unfold background Asker.matcher askBackground
  generalize values value = parts
  rcases parts with _ | ⟨part, _ | ⟨_, _⟩⟩
  · rfl
  · simp only [Inquiry.judged_ite, Inquiry.judged_pure, color]
  · rfl

theorem askScale_judged (scale : ScaleName) :
    (askScale scale stem value).judged ctx =
      if canonical value = "" then Match.none
      else Match.ofVerdict (fun token => stem ++ "-" ++ token) stem (canonical value)
        (resolve ctx scale (canonical value)) := by
  simp only [askScale, Inquiry.judged_ite, Inquiry.judged_bind, Inquiry.judged_verdict, Inquiry.judged_pure]

theorem borderRadius_apply :
    borderRadius ctx value =
      let value := canonical value
      if value = "" then Match.none
      else if value = "0" ∨ value = "0px" then Match.single "rounded-none"
      else
        let verdict := resolve ctx .radius value
        if verdict.token?.isNone && isFullRadius value then Match.single "rounded-full"
        else Match.ofVerdict radiusClass "rounded" value verdict := by
  simp only [borderRadius, askRadius, Inquiry.judged_ite, Inquiry.judged_bind, Inquiry.judged_verdict,
    Inquiry.judged_pure]
  rfl

theorem borderPart_apply :
    borderPart ctx value =
      if borderStyles.contains value then borderStyle ctx value
      else if isBorderWidth value then borderWidth ctx value
      else color "border" ctx value := by
  simp only [borderPart, Asker.matcher, askBorderPart, Inquiry.judged_ite, Inquiry.judged_pure, color]

theorem border_apply :
    border ctx value =
      match values value with
      | ["none"] => Match.single "border-0"
      | parts => joined (parts.map (borderPart ctx)) := by
  unfold border Asker.matcher askBorder
  generalize values value = parts
  split
  · rfl
  · simp only [Inquiry.judged_bind, Inquiry.judged_each, Inquiry.judged_pure]
    rfl

end UtilityCss.Property
