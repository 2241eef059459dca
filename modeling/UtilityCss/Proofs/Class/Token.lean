import UtilityCss.Proofs.Class.Levels

namespace UtilityCss
open Text

namespace Chain

def ColonsWithin (text : String) : Prop :=
  ∀ front back, text.toList = front ++ ':' :: back → Brackets.all.depthAfter 0 front ≠ 0

theorem isBase_iff (base : String) : IsBase base ↔ ColonsWithin base := by
  unfold IsBase ColonsWithin
  rw [unbroken_iff neutral_colon]
  constructor
  · intro each front back shape
    exact each front ':' back shape rfl
  · intro each front c back shape separator
    rw [eq_of_beq separator] at shape
    exact each front back shape

theorem isVariant_iff (variant : String) :
    IsVariant variant ↔ ColonsWithin variant ∧ Brackets.all.depthAfter 0 variant.toList = 0 :=
  and_congr_left' (isBase_iff variant)

instance (text : String) : Decidable (ColonsWithin text) := decidable_of_iff (IsBase text) (isBase_iff text)

-- The chains that do not lose a part to a neighbour when they are written out: no part has a colon of its own,
-- and the variants close what they open.
structure Separable (chain : Chain) : Prop where
  variants : ∀ variant ∈ chain.variants,
    ColonsWithin variant ∧ Brackets.all.depthAfter 0 variant.toList = 0
  base : ColonsWithin chain.base

instance (chain : Chain) : Decidable chain.Separable :=
  decidable_of_iff ((∀ variant ∈ chain.variants,
      ColonsWithin variant ∧ Brackets.all.depthAfter 0 variant.toList = 0) ∧ ColonsWithin chain.base)
    ⟨fun ⟨variants, base⟩ => ⟨variants, base⟩, fun separable => ⟨separable.variants, separable.base⟩⟩

theorem parse_separable (name : String) : (parse name).Separable where
  variants := fun variant member => (isVariant_iff variant).mp (parse_variants name variant member)
  base := (isBase_iff _).mp (parse_base name)

theorem parse_of_separable (chain : Chain) (separable : chain.Separable) : parse chain.render = chain :=
  parse_render chain.variants chain.base
    (fun variant member => (isVariant_iff variant).mpr (separable.variants variant member))
    ((isBase_iff _).mpr separable.base)

end Chain

namespace ClassToken

theorem group_parse (name : String) : (parse name).group = Group.ofClass name := by
  unfold parse
  dsimp only
  rw [Group.ofClass_base]

theorem parse_of_separable (token : ClassToken) (separable : token.toChain.Separable) :
    parse token.render = ⟨token.toChain, Group.ofClass token.base⟩ := by
  unfold parse render
  rw [Chain.parse_of_separable token.toChain separable]

theorem parse_and_render :
    (∀ name : String, (parse name).render = name ∧ (parse name).group = Group.ofClass name ∧
      (parse name).toChain.Separable) ∧
    ∀ token : ClassToken, token.toChain.Separable →
      parse token.render = ⟨token.toChain, Group.ofClass token.base⟩ := by
  constructor
  · intro name
    exact ⟨Chain.render_parse name, group_parse name, Chain.parse_separable name⟩
  · exact parse_of_separable

theorem parse_and_render_of_odd_brackets :
    let token : ClassToken := ⟨⟨["md", "[&:hover)", "", "]"], "bg-[(a:b]:c"⟩, .misc⟩
    token.toChain.Separable ∧ token.render = "md:[&:hover)::]:bg-[(a:b]:c" ∧
      parse token.render = ⟨token.toChain, .background⟩ ∧ (parse "p-4:").render = "p-4:" := by
  intro token
  have separable : token.toChain.Separable := by decide +kernel
  have group : Group.ofClass token.base = .background := by decide +kernel
  obtain ⟨written, read⟩ := parse_and_render
  have back := read token separable
  rw [group] at back
  exact ⟨separable, by decide +kernel, back, (written "p-4:").1⟩

end ClassToken
end UtilityCss
