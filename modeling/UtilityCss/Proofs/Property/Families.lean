import UtilityCss.Proofs.Entries
import UtilityCss.Proofs.Text.Unspaced
import UtilityCss.Proofs.Text.Written
import UtilityCss.Property.Registry

namespace UtilityCss
open Text

theorem Property.decompose_of_stems (P : String → Prop) (stems : BoxStems) (sides : Css.Sides)
    (each : ∀ name ∈ stems.all :: stems.horizontal :: stems.vertical :: stems.sides.toList, P name) :
    ∀ part ∈ decompose stems sides, P part.1 := by
  simp only [Css.Sides.toList, List.forall_mem_cons] at each
  obtain ⟨all, horizontal, vertical, top, right, bottom, left, _⟩ := each
  unfold decompose
  split
  · simpa using all
  · split
    · simpa using ⟨vertical, horizontal⟩
    · split
      · simpa using ⟨top, horizontal, bottom⟩
      · simpa using ⟨top, right, bottom, left⟩

namespace Registry
open Property

-- One case for each kind of matcher in the standard table.
structure Families (P : Matcher → Prop) : Prop where
  box : ∀ kind, P (box kind)
  spacing : ∀ stem, Written stem.toList → Unspaced stem → P (spacing stem)
  gap : P gap
  color : ∀ stem, Written stem.toList → Unspaced stem → P (color stem)
  fontSize : P fontSize
  lineHeight : P lineHeight
  named : ∀ stem table, Unspaced stem → (∀ row ∈ table, Unspaced row.2) → P (named stem table)
  keyword : ∀ table, (∀ row ∈ table, Unspaced row.2) → P (keyword table)
  border : P border
  borderRadius : P borderRadius
  borderWidth : P borderWidth
  borderStyle : P borderStyle
  background : P background
  backgroundImage : P backgroundImage
  zIndex : P zIndex
  opacity : P opacity

variable {P : Matcher → Prop}

theorem lengths_of_families (families : Families P) : ∀ entry ∈ Askers.lengths, P entry.2.matcher := by
  have stems : ∀ row ∈ lengthStems, Written row.2.toList ∧ Unspaced row.2 := by decide
  intro entry member
  rw [Askers.lengths, List.mem_map] at member
  obtain ⟨row, listed, rfl⟩ := member
  dsimp only
  exact families.spacing row.2 (stems row listed).1 (stems row listed).2

theorem colors_of_families (families : Families P) : ∀ entry ∈ Askers.colors, P entry.2.matcher := by
  have stems : ∀ row ∈ colorStems, Written row.2.toList ∧ Unspaced row.2 := by decide
  intro entry member
  rw [Askers.colors, List.mem_map] at member
  obtain ⟨row, listed, rfl⟩ := member
  dsimp only
  exact families.color row.2 (stems row listed).1 (stems row listed).2

theorem type_of_families (families : Families P) : ∀ entry ∈ Askers.type, P entry.2.matcher := by
  have tables : ∀ table ∈ [letterSpacings, fontWeights, fontStyle, textAlign, textTransform, textDecoration],
      ∀ row ∈ table, Unspaced row.2 := by
    decide +kernel
  have keyword := families.keyword
  simp only [List.forall_mem_cons] at tables
  obtain ⟨spacings, weights, style, align, transform, decoration, _⟩ := tables
  simp only [Askers.type, List.forall_mem_cons, Matcher.matcher_asker]
  exact ⟨families.fontSize, families.lineHeight, families.named _ _ (by decide) spacings,
    families.named _ _ (by decide) weights, keyword _ style, keyword _ align, keyword _ transform,
    keyword _ decoration, List.forall_mem_nil _⟩

theorem borders_of_families (families : Families P) : ∀ entry ∈ Askers.borders, P entry.2.matcher := by
  simp only [Askers.borders, List.forall_mem_cons, Matcher.matcher_asker]
  exact ⟨families.border, families.borderRadius, families.borderWidth, families.borderStyle,
    List.forall_mem_nil _⟩

theorem placement_of_families (families : Families P) : ∀ entry ∈ Askers.placement, P entry.2.matcher := by
  have tables : ∀ table ∈ [display, position, objectFit, visibility, overflow "overflow", overflow "overflow-x",
      overflow "overflow-y", flexDirection, flexWrap, justifyContent, alignItems],
      ∀ row ∈ table, Unspaced row.2 := by
    decide +kernel
  have keyword := families.keyword
  simp only [List.forall_mem_cons] at tables
  obtain ⟨shown, placed, fit, visible, both, across, down, direction, wrap, justify, align, _⟩ := tables
  simp only [Askers.placement, Registry.askers, Entries.mapValues, List.forall_mem_map, List.forall_mem_cons,
    Matcher.matcher_asker]
  exact ⟨keyword _ shown, keyword _ placed, keyword _ fit, keyword _ visible, keyword _ both, keyword _ across,
    keyword _ down, families.zIndex, families.opacity, keyword _ direction, keyword _ wrap, keyword _ justify,
    keyword _ align, List.forall_mem_nil _⟩

theorem standard_of_families (families : Families P) : ∀ entry ∈ standard, P entry.2 := by
  have boxed : ∀ entry ∈ Askers.boxes, P entry.2.matcher := by
    simp only [Askers.boxes, List.forall_mem_cons]
    exact ⟨families.box _, families.box _, families.box _, List.forall_mem_nil _⟩
  have grounds : ∀ entry ∈ Askers.backgrounds, P entry.2.matcher := by
    simp only [Askers.backgrounds, List.forall_mem_cons, Matcher.matcher_asker]
    exact ⟨families.background, families.backgroundImage, List.forall_mem_nil _⟩
  rw [standard, Askers.registry, Entries.mapValues, List.forall_mem_map]
  simp only [Askers.standard, List.forall_mem_append, List.forall_mem_singleton]
  exact ⟨⟨⟨⟨⟨⟨⟨boxed, lengths_of_families families⟩, families.gap⟩, colors_of_families families⟩,
    type_of_families families⟩, borders_of_families families⟩, grounds⟩, placement_of_families families⟩

theorem noted_classes (name raw : String) (found : Match) : (noted name raw found).classes = found.classes := by
  unfold noted
  split <;> rfl

theorem matchDeclaration_cases (registry : Registry) (property value : String) :
    (∀ ctx, registry.matchDeclaration ctx property value = Match.none) ∨
      ∃ matcher, (Css.propertyName property, matcher) ∈ registry ∧ trim value ≠ "" ∧
        ∀ ctx, registry.matchDeclaration ctx property value =
          noted (Css.propertyName property) (trim value) (matcher ctx (trim value)) := by
  unfold matchDeclaration handler?
  by_cases blank : trim value = ""
  · exact .inl fun _ => by rw [if_pos blank]
  · simp only [if_neg blank]
    cases known : Entries.find? (Css.propertyName property) registry with
    | none => exact .inl fun _ => rfl
    | some matcher => exact .inr ⟨matcher, Entries.mem_of_find? _ _ _ known, blank, fun _ => rfl⟩

end Registry
end UtilityCss
