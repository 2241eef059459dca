import UtilityCss.Proofs.Entries
import UtilityCss.Proofs.Property.Families
import UtilityCss.Proofs.Property.Inquiry

namespace UtilityCss
open Text Css

-- How every matcher builds its answer: from classes of its own and from classes it writes for a verdict. Only
-- the latter can carry a token or the text of a value.
inductive Made (ctx : Context) : Match → Prop
  | nothing : Made ctx Match.none
  | own (name : String) (unspaced : Unspaced name) : Made ctx (Match.single name)
  | judged (tokenClass : String → String) (stem value : String) (scale : ScaleName) (asked : String)
      (tokens : ∀ token, Unspaced token → Unspaced (tokenClass token)) (named : Unspaced stem) :
      Made ctx (Match.ofVerdict tokenClass stem value (resolve ctx scale asked))
  | both (a b : Match) (one : Made ctx a) (two : Made ctx b) : Made ctx (a ++ b)

def Making (matcher : Matcher) : Prop := ∀ ctx value, Made ctx (matcher ctx value)

namespace Property
open Made

theorem joined_made {ctx : Context} (parts : List Match) (each : ∀ part ∈ parts, Made ctx part) :
    Made ctx (joined parts) := by
  induction parts with
  | nil => exact nothing
  | cons part rest ih =>
    rw [List.forall_mem_cons] at each
    exact both part (joined rest) each.1 (ih each.2)

theorem hyphened_unspaced (stem name : String) (named : Unspaced stem) (unspaced : Unspaced name) :
    Unspaced (stem ++ "-" ++ name) := by
  simp only [unspaced_append]
  exact ⟨⟨named, by decide⟩, unspaced⟩

theorem listed_unspaced (table : List (String × String)) (clean : ∀ row ∈ table, Unspaced row.2) (key name : String)
    (found : Entries.find? key table = some name) : Unspaced name :=
  clean _ (Entries.mem_of_find? _ _ _ found)

theorem keyword_making (table : List (String × String)) (clean : ∀ row ∈ table, Unspaced row.2) :
    Making (keyword table) := by
  intro ctx value
  apply own
  cases found : Entries.find? (canonical value) table with
  | none => exact nofun
  | some name => exact listed_unspaced table clean _ name found

theorem named_making (stem : String) (table : List (String × String)) (named : Unspaced stem)
    (clean : ∀ row ∈ table, Unspaced row.2) : Making (Property.named stem table) := by
  intro ctx value
  unfold Property.named
  dsimp only
  split
  · rename_i name found
    exact own _ (hyphened_unspaced stem name named (listed_unspaced table clean _ name found))
  · exact own _ (arbitraryClass_unspaced stem _ named)

theorem namedSize_unspaced (stem value name : String) (found : namedSize? stem value = some name) :
    Unspaced name := by
  have fractions : ∀ row ∈ sizeFractions, Unspaced row.2 := by decide
  have keywords : ∀ row ∈ sizeKeywords, Unspaced row.2 := by decide
  unfold namedSize? at found
  split at found
  · split at found
    · rename_i fraction
      cases found
      exact listed_unspaced _ fractions _ _ fraction
    · split at found
      · rename_i size
        cases found
        exact listed_unspaced _ keywords _ _ size
      · split at found
        · cases found
          decide
        · cases found
  · cases found

theorem spacingToken_made (stem value : String) (ctx : Context) (named : Unspaced stem) :
    Made ctx (spacingToken stem value ctx) := by
  rw [spacingToken_apply]
  apply judged
  · intro token known
    have sign : Unspaced (if isNegated stem value then "-" else "") := by split <;> decide
    exact hyphened_unspaced _ token ((unspaced_append _ _).mpr ⟨sign, named⟩) known
  · exact named

theorem spacing_making (stem : String) (named : Unspaced stem) : Making (spacing stem) := by
  intro ctx value
  rw [spacing_apply]
  dsimp only
  split
  · exact nothing
  · split
    · exact own _ ((unspaced_append _ _).mpr ⟨named, by decide⟩)
    · split
      · exact own _ ((unspaced_append _ _).mpr ⟨named, by decide⟩)
      · split
        · rename_i name found
          exact own _ (hyphened_unspaced stem name named (namedSize_unspaced stem _ name found))
        · exact spacingToken_made stem _ ctx named

theorem stems_unspaced (kind : BoxKind) (sides : Sides) :
    ∀ part ∈ decompose kind.stems sides, Unspaced part.1 := by
  apply decompose_of_stems
  cases kind <;> decide

theorem box_making (kind : BoxKind) : Making (box kind) := by
  intro ctx value
  rw [box_apply]
  split
  · exact nothing
  · rename_i sides _
    apply joined_made
    rw [List.forall_mem_map]
    intro part member
    exact spacing_making part.1 (stems_unspaced kind sides part member) ctx part.2

theorem gap_making : Making gap := by
  have evenly := spacing_making "gap" (by decide)
  have rows := spacing_making "gap-y" (by decide)
  have columns := spacing_making "gap-x" (by decide)
  intro ctx value
  rw [gap_apply]
  split
  · exact nothing
  · exact evenly ctx _
  · split
    · exact evenly ctx _
    · exact both _ _ (rows ctx _) (columns ctx _)

theorem color_making (stem : String) (named : Unspaced stem) : Making (color stem) := by
  have builtins : ∀ row ∈ builtinColors, Unspaced row.2 := by decide
  intro ctx value
  rw [color_apply]
  dsimp only
  split
  · exact nothing
  · split
    · exact own _ (arbitraryClass_unspaced stem _ named)
    · split
      · rename_i builtin found
        exact own _
          (hyphened_unspaced stem builtin named (listed_unspaced _ builtins _ builtin found))
      · exact judged _ stem _ .colors _
          (fun token => hyphened_unspaced stem token named) named

theorem backgroundImage_making : Making backgroundImage := by
  intro ctx value
  unfold backgroundImage
  dsimp only
  split
  · exact nothing
  · split
    · exact own _ (by decide)
    · exact own _ (arbitraryClass_unspaced "bg" _ (by decide))

theorem background_making : Making background := by
  intro ctx value
  rw [background_apply]
  split
  · exact nothing
  · rename_i part _
    split
    · exact backgroundImage_making ctx part
    · exact color_making "bg" (by decide) ctx part
  · exact own _ (arbitraryClass_unspaced "bg" _ (by decide))

theorem askScale_making (scale : ScaleName) (stem : String) (named : Unspaced stem) :
    Making fun ctx value => (askScale scale stem value).judged ctx := by
  intro ctx value
  simp only [askScale_judged]
  split
  · exact nothing
  · exact judged _ stem _ scale _ (fun token => hyphened_unspaced stem token named) named

theorem fontSize_making : Making fontSize := askScale_making .fontSize "text" (by decide)

theorem lineHeight_making : Making lineHeight := askScale_making .lineHeight "leading" (by decide)

theorem radiusClass_unspaced (token : String) (known : Unspaced token) : Unspaced (radiusClass token) := by
  unfold radiusClass
  split
  · decide
  · exact (unspaced_append _ _).mpr ⟨by decide, known⟩

theorem borderRadius_making : Making borderRadius := by
  intro ctx value
  rw [borderRadius_apply]
  dsimp only
  split
  · exact nothing
  · split
    · exact own _ (by decide)
    · split
      · exact own _ (by decide)
      · exact judged _ "rounded" _ .radius _ radiusClass_unspaced (by decide)

theorem borderWidth_making : Making borderWidth := by
  have widths : ∀ row ∈ borderWidths, Unspaced row.2 := by decide
  intro ctx value
  unfold borderWidth
  dsimp only
  split
  · rename_i name found
    exact own _ (listed_unspaced _ widths _ name found)
  · exact own _ (arbitraryClass_unspaced "border" _ (by decide))

theorem borderStyle_making : Making borderStyle := by
  have styles : ∀ style ∈ borderStyles, Unspaced style := by decide
  intro ctx value
  unfold borderStyle
  dsimp only
  split
  · rename_i known
    have listed := styles _ (List.contains_iff_mem.mp known)
    exact own _ ((unspaced_append _ _).mpr ⟨by decide, listed⟩)
  · exact nothing

theorem border_making : Making border := by
  intro ctx value
  rw [border_apply]
  split
  · exact own _ (by decide)
  · apply joined_made
    rw [List.forall_mem_map]
    intro part _
    rw [borderPart_apply]
    split
    · exact borderStyle_making ctx part
    · split
      · exact borderWidth_making ctx part
      · exact color_making "border" (by decide) ctx part

theorem zIndex_making : Making zIndex := by
  have levels : ∀ level ∈ stackLevels, Unspaced level := by decide
  intro ctx value
  unfold zIndex
  dsimp only
  split
  · rename_i known
    have listed := levels _ (List.contains_iff_mem.mp known)
    exact own _ ((unspaced_append _ _).mpr ⟨by decide, listed⟩)
  · split
    · split
      · rename_i known
        have listed := levels _ (List.contains_iff_mem.mp (Bool.and_eq_true_iff.mp known).2)
        exact own _ ((unspaced_append _ _).mpr ⟨by decide, listed⟩)
      · exact own _ (arbitraryClass_unspaced "z" _ (by decide))
    · exact nothing

theorem opacityStep_unspaced (percent : Binary64) (step : Int) (found : opacityStep? percent = some step) :
    Unspaced (toString step) := by
  have steps : ∀ step ∈ opacitySteps, Unspaced (toString step) := by decide +kernel
  unfold opacityStep? at found
  dsimp only at found
  split at found
  · exact steps step (List.contains_iff_mem.mp (Option.filter_eq_some_iff.mp found).2)
  · cases found

theorem opacity_making : Making opacity := by
  intro ctx value
  unfold opacity
  dsimp only
  split
  · exact nothing
  · split
    · rename_i step found
      exact own _ ((unspaced_append _ _).mpr ⟨by decide, opacityStep_unspaced _ step found⟩)
    · exact own _ (arbitraryClass_unspaced "opacity" _ (by decide))

end Property

namespace Registry
open Property

theorem standard_making : ∀ entry ∈ standard, Making entry.2 :=
  standard_of_families {
    box := box_making
    spacing := fun stem _ named => spacing_making stem named
    gap := gap_making
    color := fun stem _ named => color_making stem named
    fontSize := fontSize_making
    lineHeight := lineHeight_making
    named := named_making
    keyword := keyword_making
    border := border_making
    borderRadius := borderRadius_making
    borderWidth := borderWidth_making
    borderStyle := borderStyle_making
    background := background_making
    backgroundImage := backgroundImage_making
    zIndex := zIndex_making
    opacity := opacity_making }

end Registry
end UtilityCss
