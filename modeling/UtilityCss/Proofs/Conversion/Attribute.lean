import UtilityCss.Proofs.Conversion.Membership
import UtilityCss.Proofs.Property.Unspaced

namespace UtilityCss
open Text Css

theorem Chain.render_unspaced (chain : Chain) (variants : ∀ variant ∈ chain.variants, Unspaced variant)
    (base : Unspaced chain.base) : Unspaced chain.render := by
  unfold Unspaced
  rw [toList_render, List.forall_mem_append]
  refine ⟨?_, base⟩
  intro c member
  obtain ⟨piece, written, inside⟩ := List.mem_flatMap.mp member
  obtain ⟨variant, known, rfl⟩ := List.mem_map.mp written
  rcases List.mem_append.mp inside with here | colon
  · exact variants variant known c here
  · rw [List.mem_singleton.mp colon]
    decide

theorem Css.Declaration.chain_unspaced (d : Declaration) (each : ∀ variant ∈ d.variants, Unspaced (trim variant)) :
    ∀ variant ∈ d.chain, Unspaced variant := by
  intro variant member
  simp only [chain, List.mem_filter, List.mem_map] at member
  obtain ⟨⟨written, known, rfl⟩, _⟩ := member
  exact each written known

namespace Conversion

theorem ofDeclarations_unspaced (registry : Registry) (spaceless : ∀ entry ∈ registry, Spaceless entry.2)
    (ctx : Context) (unspaced : ctx.Unspaced) (declarations : List Declaration) (conversion : Conversion)
    (variants : ∀ d ∈ declarations, ∀ variant ∈ d.variants, Unspaced (trim variant))
    (returns : ofDeclarations registry ctx declarations = .ok conversion) :
    ∀ name ∈ conversion.classes, IsWord name := by
  intro name member
  have sorts := (ofDeclarations_assembled registry ctx declarations conversion returns).classes
  obtain ⟨filled, written, made, rfl⟩ := (mem_of_sorted _ _ _ sorts name).mp member
  obtain ⟨d, declared, base, matched, rfl⟩ := (mem_produced registry ctx declarations written).mp made
  have bare := registry.matchDeclaration_unspaced spaceless ctx unspaced d.property d.value base matched
  have whole := Chain.render_unspaced ⟨d.chain, base⟩ (d.chain_unspaced (variants d declared)) bare
  exact ⟨filled, whole.of_subset (Chain.canonical_subset _)⟩

theorem ofDeclarations_words (ctx : Context) (declarations : List Declaration) (conversion : Conversion)
    (unspaced : ctx.Unspaced) (variants : ∀ d ∈ declarations, ∀ variant ∈ d.variants, Unspaced (trim variant))
    (returns : ofDeclarations .standard ctx declarations = .ok conversion) :
    (∀ name ∈ conversion.classes, name ≠ "" ∧ Unspaced name) ∧
      words (String.intercalate " " conversion.classes) = conversion.classes := by
  have each := ofDeclarations_unspaced .standard Registry.standard_spaceless ctx unspaced declarations conversion
    variants returns
  exact ⟨fun name member => ⟨(each name member).filled, (each name member).unspaced⟩, words_of_spaced _ each⟩

theorem ofDeclarations_words_of_odd_blanks :
    let layer : Layer := { Layer.empty with spacing := ⟨[("4", "1rem")]⟩, screens := ⟨[("md", "768px")]⟩ }
    let ctx : Context := ⟨some layer, none, .current, false, false, .standard, [], false⟩
    let declarations : List Declaration :=
      [⟨"margin", "\u30001rem\u2028auto", [" md\u00a0", "\u001f"]⟩,
        ⟨"background-image", "url(a\u205f \u0085b)", []⟩, ⟨"color", "rgb(\u1680 1,\t2)", []⟩]
    ∃ conversion, ctx.Unspaced ∧ (∀ d ∈ declarations, ∀ variant ∈ d.variants, Unspaced (trim variant)) ∧
      ofDeclarations .standard ctx declarations = .ok conversion ∧
      conversion.classes = ["text-[rgb(1,2)]", "bg-[url(a_b)]", "md:mx-auto", "md:my-4"] ∧
      words (String.intercalate " " conversion.classes) = conversion.classes := by
  intro layer ctx declarations
  have unspaced : ctx.Unspaced := by
    intro origin name
    cases origin <;> cases name <;> decide
  have variants : ∀ d ∈ declarations, ∀ variant ∈ d.variants, Unspaced (trim variant) := by decide +kernel
  have sorts : sortClasses (screenOrder ctx) (produced (declarations.map (Contribution.of .standard ctx))) =
      .ok ["text-[rgb(1,2)]", "bg-[url(a_b)]", "md:mx-auto", "md:my-4"] := by
    rw [sortClasses_eq_ok_iff, legible_iff_distinct]
    decide +kernel
  obtain ⟨conversion, returns, names⟩ := ofDeclarations_of_sorted .standard ctx declarations _ sorts
  obtain ⟨_, read⟩ := ofDeclarations_words ctx declarations conversion unspaced variants returns
  exact ⟨conversion, unspaced, variants, returns, names, read⟩

end Conversion
end UtilityCss
