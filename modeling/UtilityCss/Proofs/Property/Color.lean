import UtilityCss.Proofs.Css.Canonical
import UtilityCss.Proofs.Entries
import UtilityCss.Proofs.Property.Inquiry
import UtilityCss.Proofs.Text.Casing
import UtilityCss.Property.Registry

namespace UtilityCss
open Text Css

theorem canonical_of_call (value : String) (call : '(' ∈ value.toList) : canonical value = trim value := by
  have kept : '(' ∈ (trim value).toList := mem_trim_of_kept value '(' call (by decide)
  have cased : keepsCase (trim value).toList = true := by
    rw [keepsCase, Bool.or_eq_true, List.any_eq_true]
    exact .inl ⟨'(', kept, by decide⟩
  unfold canonical
  exact if_pos cased

theorem canonicalColorText_of_call (cs : List Char) (call : '(' ∈ cs) :
    '(' ∈ canonicalColorText cs ∧ solid (canonicalColorText cs) = solid cs := by
  have short : longHex? cs = none := by
    unfold longHex?
    split
    · rename_i digits
      refine if_neg ?_
      intro hash
      have inside : '(' ∈ digits := by simpa using call
      have digit := List.all_eq_true.mp (Bool.and_eq_true_iff.mp hash).2 '(' inside
      exact absurd digit (by decide)
    · rfl
  rw [canonicalColorText, short]
  dsimp only
  split
  · exact ⟨List.mem_filter.mpr ⟨call, by decide⟩, solid_unblanked cs⟩
  · exact ⟨call, rfl⟩

theorem canonicalColor_of_call (value : String) (call : '(' ∈ value.toList) :
    '(' ∈ (canonicalColor value).toList ∧
      solid (canonicalColor value).toList = solid (lowercase (trim value)).toList := by
  have small : Lowered '(' := lowered_ascii '(' (by decide) (by decide)
  have kept : '(' ∈ (lowercase (trim value)).toList := by
    rw [toList_lowercase]
    exact mem_lowerAfter_of_lowered [] _ '(' small (mem_trim_of_kept value '(' call (by decide))
  rw [canonicalColor, String.toList_ofList]
  exact canonicalColorText_of_call _ kept

theorem ne_empty_of_mem {s : String} {c : Char} (member : c ∈ s.toList) : s ≠ "" := by
  rintro rfl
  cases member

theorem arbitraryClass_of_call (stem value : String) (named : trim stem = stem) (filled : stem ≠ "")
    (call : '(' ∈ value.toList) : ∃ inner, arbitraryClass stem value = stem ++ "-[" ++ inner ++ "]" ∧
      solid inner.toList = solid value.toList := by
  have kept : '(' ∈ (trim value).toList := mem_trim_of_kept value '(' call (by decide)
  refine ⟨String.ofList (underscored false (trim value).toList), ?_, ?_⟩
  · unfold arbitraryClass
    rw [named, canonical_of_call value call]
    exact if_neg (not_or.mpr ⟨filled, ne_empty_of_mem kept⟩)
  · rw [String.toList_ofList, solid_underscored, solid_trim]

namespace Property

-- The token that the class of a colour names, if it names one. A custom property is not asked for.
def colorToken? (ctx : Context) (value : String) : Option String :=
  if beginsWith "var(" (canonical value) then none
  else (resolve ctx .colors (canonicalColor (canonical value))).token?

theorem builtin_no_call (name : String) (call : '(' ∈ name.toList) : Entries.find? name builtinColors = none := by
  have plain : ∀ row ∈ builtinColors, '(' ∉ row.1.toList := by decide
  cases found : Entries.find? name builtinColors with
  | none => rfl
  | some builtin => exact absurd call (plain _ (Entries.mem_of_find? _ _ _ found))

def bracketed (value : String) : String :=
  if beginsWith "var(" (canonical value) then canonical value else canonicalColor (canonical value)

theorem bracketed_of_call (value : String) (call : '(' ∈ value.toList) : '(' ∈ (bracketed value).toList ∧
    solid (bracketed value).toList = solid (if beginsWith "var(" (trim value) then trim value
      else lowercase (trim value)).toList := by
  have kept : '(' ∈ (trim value).toList := mem_trim_of_kept value '(' call (by decide)
  unfold bracketed
  rw [canonical_of_call value call]
  split
  · exact ⟨kept, rfl⟩
  · obtain ⟨inside, same⟩ := canonicalColor_of_call (trim value) kept
    rw [trim_trim] at same
    exact ⟨inside, same⟩

theorem color_of_call (stem : String) (ctx : Context) (value : String) (call : '(' ∈ value.toList) :
    color stem ctx value = match colorToken? ctx value with
      | some token => Match.warned (stem ++ "-" ++ token)
          (resolve ctx .colors (canonicalColor (canonical value))).warning?
      | none => Match.warned (arbitraryClass stem (bracketed value))
          (if beginsWith "var(" (canonical value) then none
            else (resolve ctx .colors (canonicalColor (canonical value))).warning?) := by
  obtain ⟨kept, _⟩ := bracketed_of_call value call
  have filled : canonical value ≠ "" := by
    rw [canonical_ne_empty_iff]
    exact ⟨'(', call, by decide⟩
  have silent : ∀ name, Match.single name = Match.warned name none := fun _ => rfl
  by_cases custom : beginsWith "var(" (canonical value) = true
  · simp only [color_apply, colorToken?, bracketed, filled, custom, if_false, if_true, silent]
  · rw [bracketed, if_neg custom] at kept
    cases found : (resolve ctx .colors (canonicalColor (canonical value))).token? with
    | some token =>
      simp only [color_apply, colorToken?, filled, custom, Bool.false_eq_true, if_false, builtin_no_call _ kept,
        Match.ofVerdict, found]
    | none =>
      simp only [color_apply, colorToken?, bracketed, filled, custom, Bool.false_eq_true, if_false, builtin_no_call _ kept,
        Match.ofVerdict, found]

theorem color_keeps_case_iff (stem : String) (ctx : Context) (value : String)
    (listed : stem ∈ Registry.colorStems.map (·.2)) (call : '(' ∈ value.toList) :
    (∀ token, colorToken? ctx value = some token →
      (color stem ctx value).classes = [stem ++ "-" ++ token]) ∧
    (colorToken? ctx value = none → ∃ inner,
      (color stem ctx value).classes = [stem ++ "-[" ++ inner ++ "]"] ∧
        (solid inner.toList = solid value.toList ↔
          beginsWith "var(" (trim value) = true ∨ lowercase value = value)) := by
  have filled : stem ≠ "" := (by decide : ∀ stem ∈ Registry.colorStems.map (·.2), stem ≠ "") stem listed
  have named : trim stem = stem :=
    (by decide +kernel : ∀ stem ∈ Registry.colorStems.map (·.2), trim stem = stem) stem listed
  rw [color_of_call stem ctx value call]
  constructor
  · intro token known
    rw [known]
    exact Match.warned_classes _ _ (by simp [filled])
  · intro unnamed
    obtain ⟨kept, same⟩ := bracketed_of_call value call
    obtain ⟨inner, written, inside⟩ := arbitraryClass_of_call stem (bracketed value) named filled kept
    refine ⟨inner, ?_, ?_⟩
    · rw [unnamed, written]
      exact Match.warned_classes _ _ (by simp [filled])
    · rw [inside, same]
      split
      · rename_i custom
        simp [custom, solid_trim]
      · rename_i other
        rw [← solid_trim value, solid_lowercase_iff, lowercase_trim_iff]
        simp [other]

theorem color_keeps_case_of_variable :
    let ctx : Context := ⟨none, none, .current, false, false, .standard, standardScreens, false⟩
    "text" ∈ Registry.colorStems.map (·.2) ∧ '(' ∈ " var(--Brand Ink) ".toList ∧
      colorToken? ctx " var(--Brand Ink) " = none ∧ ∃ inner,
        (color "text" ctx " var(--Brand Ink) ").classes = ["text-[" ++ inner ++ "]"] ∧
          solid inner.toList = solid " var(--Brand Ink) ".toList := by
  intro ctx
  have listed : "text" ∈ Registry.colorStems.map (·.2) := by decide
  have call : '(' ∈ " var(--Brand Ink) ".toList := by decide
  have unnamed : colorToken? ctx " var(--Brand Ink) " = none := by decide +kernel
  obtain ⟨inner, made, exactly⟩ := (color_keeps_case_iff "text" ctx _ listed call).2 unnamed
  exact ⟨listed, call, unnamed, inner, made, exactly.mpr (.inl (by decide +kernel))⟩

theorem color_loses_case :
    let ctx : Context := ⟨none, none, .current, false, false, .standard, standardScreens, false⟩
    (color "fill" ctx "url(#Logo)").classes = ["fill-[url(#logo)]"] ∧
      solid "url(#logo)".toList ≠ solid "url(#Logo)".toList ∧
      (color "text" ctx "color-mix(in srgb, var(--Brand), red)").classes =
        ["text-[color-mix(in_srgb,_var(--brand),_red)]"] ∧
      (color "bg" ctx "rgb(from var(--Brand) r g b)").classes = ["bg-[rgb(fromvar(--brand)rgb)]"] := by
  decide +kernel

end Property
end UtilityCss
