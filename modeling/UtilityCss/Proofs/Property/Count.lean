import Mathlib.Algebra.Ring.Nat
import UtilityCss.Proofs.Class.Arbitrary
import UtilityCss.Proofs.Css.Canonical
import UtilityCss.Proofs.Property.Inquiry
import UtilityCss.Proofs.Property.Verdicts

namespace UtilityCss
open Text Css

namespace Match

theorem warned_length (name : String) (warning : Option String) (filled : name ≠ "") :
    (warned name warning).classes.length = 1 := by
  rw [warned_classes name warning filled]
  rfl

theorem ofVerdict_length (tokenClass : String → String) (stem value : String) (verdict : Verdict)
    (tokens : ∀ token, tokenClass token ≠ "") (named : Written stem.toList)
    (written : Written value.toList) :
    (ofVerdict tokenClass stem value verdict).classes.length = 1 := by
  unfold ofVerdict
  cases verdict.token? with
  | some token => exact warned_length _ _ (tokens token)
  | none => exact warned_length _ _ (arbitraryClass_ne_empty stem value named written)

end Match

-- The number of classes depends on the value alone. Which classes they are may depend on the context.
def Steady (matcher : Matcher) : Prop :=
  ∀ a b value, (matcher a value).classes.length = (matcher b value).classes.length

theorem Blind.steady {matcher : Matcher} (blind : Blind matcher) : Steady matcher := by
  intro a b value
  rw [blind a b]

namespace Property

theorem joined_classes (parts : List Match) : (joined parts).classes = parts.flatMap (·.classes) := by
  induction parts with
  | nil => rfl
  | cons part rest ih =>
    rw [List.flatMap_cons, ← ih]
    rfl

theorem joined_warnings (parts : List Match) : (joined parts).warnings = parts.flatMap (·.warnings) := by
  induction parts with
  | nil => rfl
  | cons part rest ih =>
    rw [List.flatMap_cons, ← ih]
    rfl

theorem joined_length (parts : List Match) :
    (joined parts).classes.length = (parts.map fun part => part.classes.length).sum := by
  rw [joined_classes, List.length_flatMap]

theorem joined_steady {α : Type} (parts : List α) (part : α → Context → Match) (a b : Context)
    (each : ∀ x ∈ parts, (part x a).classes.length = (part x b).classes.length) :
    (joined (parts.map fun x => part x a)).classes.length =
      (joined (parts.map fun x => part x b)).classes.length := by
  rw [joined_length, joined_length, List.map_map, List.map_map]
  exact congrArg List.sum (List.map_congr_left each)

theorem spacingToken_length (stem value : String) (ctx : Context) (named : Written stem.toList)
    (written : Written value.toList) : (spacingToken stem value ctx).classes.length = 1 := by
  rw [spacingToken_apply]
  apply Match.ofVerdict_length
  · intro token
    simp
  · exact named
  · exact written

theorem spacing_length (stem : String) (ctx : Context) (value : String) (named : Written stem.toList)
    (written : Written value.toList) : (spacing stem ctx value).classes.length = 1 := by
  have stemmed : stem ≠ "" := by
    rintro rfl
    exact named.ne_nil rfl
  have filled : ¬(canonical value = "" ∨ stem = "") := not_or.mpr ⟨(canonical_ne_empty_iff value).mpr written, stemmed⟩
  have hyphened (name : String) : (Match.single (stem ++ "-" ++ name)).classes.length = 1 :=
    Match.warned_length _ _ (by simp)
  rw [spacing_apply]
  dsimp only
  rw [if_neg filled]
  split
  · exact Match.warned_length _ _ (by simp)
  · split
    · exact Match.warned_length _ _ (by simp)
    · cases namedSize? stem (canonical value) with
      | some name => exact hyphened name
      | none => exact spacingToken_length stem _ ctx named (canonical_written value written)

theorem spacing_steady (stem : String) (named : Written stem.toList) : Steady (spacing stem) := by
  intro a b value
  by_cases blank : canonical value = ""
  · rw [spacing_apply, spacing_apply]
    dsimp only
    rw [if_pos (.inl blank), if_pos (.inl blank)]
  · have written := (canonical_ne_empty_iff value).mp blank
    rw [spacing_length stem a value named written, spacing_length stem b value named written]

theorem stems_named (kind : BoxKind) : ∀ name ∈ kind.stems.all :: kind.stems.horizontal ::
    kind.stems.vertical :: kind.stems.sides.toList, Written name.toList := by
  cases kind <;> decide

theorem decompose_named (kind : BoxKind) (sides : Sides) :
    ∀ part ∈ decompose kind.stems sides, Written part.1.toList :=
  decompose_of_stems (fun name => Written name.toList) kind.stems sides (stems_named kind)

theorem box_steady (kind : BoxKind) : Steady (box kind) := by
  intro a b value
  rw [box_apply, box_apply]
  split
  · rfl
  · rename_i sides read
    exact joined_steady (decompose kind.stems sides) (fun part ctx => spacing part.1 ctx part.2) a b
      fun part member => spacing_steady part.1 (decompose_named kind sides part member) a b part.2

theorem gap_steady : Steady gap := by
  have both := spacing_steady "gap" (by decide)
  have rows := spacing_steady "gap-y" (by decide)
  have columns := spacing_steady "gap-x" (by decide)
  intro a b value
  rw [gap_apply, gap_apply]
  split
  · rfl
  · exact both a b _
  · split
    · exact both a b _
    · rename_i row column _ _ _
      change List.length (_ ++ _) = List.length (_ ++ _)
      rw [List.length_append, List.length_append, rows a b row, columns a b column]

theorem color_length (stem : String) (ctx : Context) (value : String) (named : Written stem.toList)
    (written : Written value.toList) : (color stem ctx value).classes.length = 1 := by
  have kept := canonical_written value written
  rw [color_apply]
  dsimp only
  rw [if_neg ((canonical_ne_empty_iff value).mpr written)]
  split
  · exact Match.warned_length _ _ (arbitraryClass_ne_empty stem _ named kept)
  · split
    · exact Match.warned_length _ _ (by simp)
    · exact Match.ofVerdict_length _ _ _ _ (by simp) named (canonicalColor_written _ kept)

theorem color_steady (stem : String) (named : Written stem.toList) : Steady (color stem) := by
  intro a b value
  by_cases blank : canonical value = ""
  · rw [color_apply, color_apply]
    dsimp only
    rw [if_pos blank, if_pos blank]
  · have written := (canonical_ne_empty_iff value).mp blank
    rw [color_length stem a value named written, color_length stem b value named written]

theorem background_steady : Steady background := by
  intro a b value
  rw [background_apply, background_apply]
  split
  · rfl
  · rename_i part single
    split
    · exact backgroundImage_blind.steady a b part
    · exact color_steady "bg" (by decide) a b part
  · rfl

theorem askScale_steady (scale : ScaleName) (stem : String) (named : Written stem.toList) :
    Steady fun ctx value => (askScale scale stem value).judged ctx := by
  have tokens (token : String) : stem ++ "-" ++ token ≠ "" := by simp
  intro a b value
  simp only [askScale_judged]
  by_cases blank : canonical value = ""
  · rw [if_pos blank, if_pos blank]
  · rw [if_neg blank, if_neg blank]
    have written := written_of_canonical value blank
    rw [Match.ofVerdict_length _ _ _ _ tokens named written, Match.ofVerdict_length _ _ _ _ tokens named written]

theorem fontSize_steady : Steady fontSize := askScale_steady .fontSize "text" (by decide)

theorem lineHeight_steady : Steady lineHeight := askScale_steady .lineHeight "leading" (by decide)

theorem radiusClass_ne_empty (token : String) : radiusClass token ≠ "" := by
  unfold radiusClass
  split
  · decide
  · simp

theorem borderRadius_steady : Steady borderRadius := by
  intro a b value
  rw [borderRadius_apply, borderRadius_apply]
  dsimp only
  by_cases blank : canonical value = ""
  · rw [if_pos blank, if_pos blank]
  · rw [if_neg blank, if_neg blank]
    split
    · rfl
    · have written := written_of_canonical value blank
      have one (verdict : Verdict) : (if verdict.token?.isNone && isFullRadius (canonical value) then
          Match.single "rounded-full" else
          Match.ofVerdict radiusClass "rounded" (canonical value) verdict).classes.length = 1 := by
        split
        · rfl
        · exact Match.ofVerdict_length _ _ _ _ radiusClass_ne_empty (by decide) written
      rw [one, one]

theorem borderPart_steady : Steady borderPart := by
  intro a b part
  rw [borderPart_apply, borderPart_apply]
  split
  · exact borderStyle_blind.steady a b part
  · split
    · exact borderWidth_blind.steady a b part
    · exact color_steady "border" (by decide) a b part

theorem border_steady : Steady border := by
  intro a b value
  rw [border_apply, border_apply]
  split
  · rfl
  · exact joined_steady (values value) (fun part ctx => borderPart ctx part) a b
      fun part _ => borderPart_steady a b part

end Property

namespace Registry
open Property

theorem standard_steady : ∀ entry ∈ standard, Steady entry.2 :=
  standard_of_families {
    box := box_steady
    spacing := fun stem named _ => spacing_steady stem named
    gap := gap_steady
    color := fun stem named _ => color_steady stem named
    fontSize := fontSize_steady
    lineHeight := lineHeight_steady
    named := fun stem table _ _ => (named_blind stem table).steady
    keyword := fun table _ => (keyword_blind table).steady
    border := border_steady
    borderRadius := borderRadius_steady
    borderWidth := borderWidth_blind.steady
    borderStyle := borderStyle_blind.steady
    background := background_steady
    backgroundImage := backgroundImage_blind.steady
    zIndex := zIndex_blind.steady
    opacity := opacity_blind.steady }

theorem matchDeclaration_length (registry : Registry) (steady : ∀ entry ∈ registry, Steady entry.2)
    (a b : Context) (property value : String) :
    (registry.matchDeclaration a property value).classes.length =
      (registry.matchDeclaration b property value).classes.length := by
  rcases registry.matchDeclaration_cases property value with missed | ⟨matcher, known, _, found⟩
  · rw [missed, missed]
  · rw [found, found, noted_classes, noted_classes]
    exact steady _ known a b (trim value)

end Registry
end UtilityCss
