import UtilityCss.Proofs.Conversion.Assembly
import UtilityCss.Proofs.Css.Canonical

namespace UtilityCss
open Text Css

def Css.Declaration.chain (d : Declaration) : List String := (d.variants.map trim).filter (· ≠ "")

theorem Css.Declaration.mem_chain (d : Declaration) (variant : String) (member : variant ∈ d.chain) :
    variant ≠ "" ∧ trim variant = variant := by
  simp only [chain, List.mem_filter, List.mem_map, decide_eq_true_eq] at member
  obtain ⟨⟨written, _, rfl⟩, filled⟩ := member
  exact ⟨filled, trim_trim written⟩

theorem Registry.matchDeclaration_name (registry : Registry) (ctx : Context) (d : Declaration) :
    registry.matchDeclaration ctx d.name (trim d.value) = registry.matchDeclaration ctx d.property d.value := by
  unfold matchDeclaration handler? Css.Declaration.name
  rw [propertyName_propertyName, trim_trim]

theorem Registry.matchDeclaration_unknown (registry : Registry) (ctx : Context) (d : Declaration)
    (unknown : Entries.find? d.name registry = none) :
    registry.matchDeclaration ctx d.property d.value = Match.none := by
  unfold matchDeclaration handler?
  rw [← Css.Declaration.name, unknown, ite_self]

def Contribution.unhandledWarning (registry : Registry) (d : Declaration) : String :=
  if (Entries.find? d.name registry).isNone then noHandlerWarning d.name (trim d.value)
  else notTransformedWarning d.name (trim d.value)

theorem Contribution.of_matching (registry : Registry) (ctx : Context) (d : Declaration) :
    Contribution.of registry ctx d =
      let matching := registry.matchDeclaration ctx d.property d.value
      if matching.isMatch then ⟨d.name, underVariants d.variants matching.classes, matching.warnings, true⟩
      else ⟨d.name, [], matching.warnings ++ [unhandledWarning registry d], false⟩ := by
  unfold Contribution.of unhandledWarning
  dsimp only
  rw [Registry.matchDeclaration_name]
  cases known : Entries.find? d.name registry with
  | none =>
    rw [Registry.matchDeclaration_unknown registry ctx d known]
    rfl
  | some matcher => rfl

theorem Contribution.of_classes (registry : Registry) (ctx : Context) (d : Declaration) :
    (Contribution.of registry ctx d).classes =
      (registry.matchDeclaration ctx d.property d.value).classes.map fun base =>
        Chain.render ⟨d.chain, base⟩ := by
  rw [of_matching]
  dsimp only
  split
  · rfl
  · rename_i unmatched
    have empty : (registry.matchDeclaration ctx d.property d.value).classes = [] := by
      simpa [Match.isMatch] using unmatched
    rw [empty]
    rfl

namespace Conversion

theorem mem_produced (registry : Registry) (ctx : Context) (declarations : List Declaration) (name : String) :
    name ∈ produced (declarations.map (Contribution.of registry ctx)) ↔ ∃ d ∈ declarations,
      ∃ base ∈ (registry.matchDeclaration ctx d.property d.value).classes,
        Chain.render ⟨d.chain, base⟩ = name := by
  simp only [produced, List.flatMap_map, List.mem_flatMap, Contribution.of_classes, List.mem_map]

theorem ofDeclarations_classes (registry : Registry) (ctx : Context) (declarations : List Declaration)
    (conversion : Conversion)
    (closed : ∀ d ∈ declarations, ∀ variant ∈ d.chain, Chain.IsVariant variant)
    (bare : ∀ d ∈ declarations, ∀ base ∈ (registry.matchDeclaration ctx d.property d.value).classes,
      Chain.IsBare base)
    (returns : ofDeclarations registry ctx declarations = .ok conversion) :
    conversion.classes.Nodup ∧ ∀ name, name ∈ conversion.classes ↔ ∃ d ∈ declarations,
      ∃ base ∈ (registry.matchDeclaration ctx d.property d.value).classes,
        Chain.render ⟨Chain.distinct d.chain, base⟩ = name := by
  have sorts := (ofDeclarations_assembled registry ctx declarations conversion returns).classes
  refine ⟨nodup_of_sorted _ _ _ sorts, fun name => ?_⟩
  -- Sorting shows the canonical form. Closed variants in front of a bare class only lose their repetitions.
  have form : ∀ d ∈ declarations, ∀ base ∈ (registry.matchDeclaration ctx d.property d.value).classes,
      Chain.canonical (Chain.render ⟨d.chain, base⟩) = Chain.render ⟨Chain.distinct d.chain, base⟩ := by
    intro d declared base matched
    apply Chain.canonical_render
    · intro variant member
      obtain ⟨filled, trimmed⟩ := d.mem_chain variant member
      exact ⟨filled, trimmed, closed d declared variant member⟩
    · exact bare d declared base matched
  rw [mem_of_sorted _ _ _ sorts]
  constructor
  · rintro ⟨_, written, made, rfl⟩
    obtain ⟨d, declared, base, matched, rfl⟩ := (mem_produced registry ctx declarations written).mp made
    exact ⟨d, declared, base, matched, (form d declared base matched).symm⟩
  · rintro ⟨d, declared, base, matched, rfl⟩
    have filled := (bare d declared base matched).filled
    refine ⟨Chain.render_ne_empty _ base filled, Chain.render ⟨d.chain, base⟩, ?_, form d declared base matched⟩
    exact (mem_produced registry ctx declarations _).mpr ⟨d, declared, base, matched, rfl⟩

theorem ofDeclarations_classes_bracketed :
    let ctx : Context := ⟨none, none, .current, false, false, .standard, [], false⟩
    let declarations : List Declaration :=
      [⟨" Width", "calc(1px + 2px)", [" hover", "group-[a:b]", "hover", " "]⟩, ⟨"display", "block", []⟩,
        ⟨"float", "left", ["md"]⟩]
    ∃ conversion, ofDeclarations .standard ctx declarations = .ok conversion ∧
      (∀ d ∈ declarations, ∀ variant ∈ d.chain, Chain.IsVariant variant) ∧
      (∀ d ∈ declarations, ∀ base ∈ (Registry.standard.matchDeclaration ctx d.property d.value).classes,
        Chain.IsBare base) ∧
      conversion.classes = ["block", "hover:group-[a:b]:w-[calc(1px_+_2px)]"] ∧ conversion.classes.Nodup ∧
      ∀ name, name ∈ conversion.classes ↔ ∃ d ∈ declarations,
        ∃ base ∈ (Registry.standard.matchDeclaration ctx d.property d.value).classes,
          Chain.render ⟨Chain.distinct d.chain, base⟩ = name := by
  intro ctx declarations
  have sorts : sortClasses (screenOrder ctx) (produced (declarations.map (Contribution.of .standard ctx))) =
      .ok ["block", "hover:group-[a:b]:w-[calc(1px_+_2px)]"] := by
    rw [sortClasses_eq_ok_iff, legible_iff_distinct]
    decide +kernel
  obtain ⟨conversion, returns, names⟩ := ofDeclarations_of_sorted .standard ctx declarations _ sorts
  have closed : ∀ d ∈ declarations, ∀ variant ∈ d.chain, Chain.IsVariant variant := by decide +kernel
  have bare : ∀ d ∈ declarations,
      ∀ base ∈ (Registry.standard.matchDeclaration ctx d.property d.value).classes, Chain.IsBare base := by
    decide +kernel
  obtain ⟨once, exactly⟩ := ofDeclarations_classes .standard ctx declarations conversion closed bare returns
  exact ⟨conversion, returns, closed, bare, names, once, exactly⟩

end Conversion
end UtilityCss
