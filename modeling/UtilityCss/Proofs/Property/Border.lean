import UtilityCss.Proofs.Css.Values
import UtilityCss.Proofs.Property.Count

namespace UtilityCss
open Text Css

namespace Css

theorem values_written (value part : String) (member : part ∈ values value) : Written part.toList := by
  have filled := values_filled value part member
  have unbroken := values_unbroken value part member
  cases shape : part.toList with
  | nil => exact absurd (String.toList_eq_nil_iff.mp shape) filled
  | cons c rest =>
    rw [shape] at unbroken
    refine ⟨c, List.mem_cons_self, ?_⟩
    by_contra blank
    have blank : isBlank c = true := by simpa using blank
    exact unbroken.1 ⟨blank, round_step_of_blank 0 c blank⟩

end Css

namespace Property

theorem borderStyle_length (ctx : Context) (part : String) (listed : borderStyles.contains part = true) :
    (borderStyle ctx part).classes.length = 1 := by
  have normal : ∀ style ∈ borderStyles, canonical style = style := by decide +kernel
  unfold borderStyle
  dsimp only
  rw [normal part (List.contains_iff_mem.mp listed), if_pos listed]
  exact Match.warned_length _ _ (by simp)

theorem borderWidth_length (ctx : Context) (part : String) (written : Written part.toList) :
    (borderWidth ctx part).classes.length = 1 := by
  have named : ∀ row ∈ borderWidths, row.2 ≠ "" := by decide
  unfold borderWidth
  dsimp only
  cases found : Entries.find? (canonical part) borderWidths with
  | some name => exact Match.warned_length _ _ (named _ (Entries.mem_of_find? _ _ _ found))
  | none =>
    exact Match.warned_length _ _ (arbitraryClass_ne_empty "border" _ (by decide) (canonical_written part written))

theorem borderPart_length (ctx : Context) (part : String) (written : Written part.toList) :
    (borderPart ctx part).classes.length = 1 := by
  rw [borderPart_apply]
  split
  · rename_i listed
    exact borderStyle_length ctx part listed
  · split
    · exact borderWidth_length ctx part written
    · exact color_length "border" ctx part (by decide) written

-- What a value adds to a border. By itself none is no style but no border at all.
def borderShare (ctx : Context) (parts : List String) (part : String) : Match :=
  if parts = ["none"] then Match.single "border-0" else borderPart ctx part

theorem borderShare_length (ctx : Context) (parts : List String) (part : String) (written : Written part.toList) :
    (borderShare ctx parts part).classes.length = 1 := by
  unfold borderShare
  split
  · rfl
  · exact borderPart_length ctx part written

theorem border_eq_joined (ctx : Context) (value : String) :
    border ctx value = joined ((values value).map (borderShare ctx (values value))) := by
  rw [border_apply]
  split
  · rename_i alone
    rw [alone]
    rfl
  · rename_i together
    have share : borderShare ctx (values value) = borderPart ctx := by
      funext part
      exact if_neg together
    rw [share]

theorem borderShare_perm (ctx : Context) (parts others : List String) (permuted : others.Perm parts) :
    borderShare ctx others = borderShare ctx parts := by
  have same : others = ["none"] ↔ parts = ["none"] := by
    constructor
    · rintro rfl
      exact (List.singleton_perm.mp permuted).symm
    · rintro rfl
      exact List.perm_singleton.mp permuted
  funext part
  simp only [borderShare, same]

theorem border_in_any_order (ctx : Context) (value other : String) (permuted : (values other).Perm (values value)) :
    (border ctx other).classes.Perm (border ctx value).classes ∧
      (border ctx other).warnings.Perm (border ctx value).warnings ∧
      (border ctx value).classes =
        (values value).flatMap (fun part => (borderShare ctx (values value) part).classes) ∧
      ∀ part ∈ values value, (borderShare ctx (values value) part).classes.length = 1 := by
  have classes (text : String) : (border ctx text).classes =
      (values text).flatMap fun part => (borderShare ctx (values text) part).classes := by
    rw [border_eq_joined, joined_classes, List.flatMap_map]
  have warnings (text : String) : (border ctx text).warnings =
      (values text).flatMap fun part => (borderShare ctx (values text) part).warnings := by
    rw [border_eq_joined, joined_warnings, List.flatMap_map]
  have share := borderShare_perm ctx _ _ permuted
  refine ⟨?_, ?_, classes value, ?_⟩
  · rw [classes other, classes value, share]
    exact permuted.flatMap_right _
  · rw [warnings other, warnings value, share]
    exact permuted.flatMap_right _
  · intro part member
    exact borderShare_length ctx _ part (values_written value part member)

theorem border_in_any_order_of_strict :
    let ctx : Context := ⟨some { Layer.empty with colors := ⟨[("ink", "#00f")]⟩ }, none, .current, true, false,
      .standard, standardScreens, false⟩
    (values "none RGB(1, 2, 3) 1px #fff").Perm (values "#fff 1px RGB(1, 2, 3) none") ∧
      (border ctx "none RGB(1, 2, 3) 1px #fff").classes =
        ["border-none", "border-[rgb(1,2,3)]", "border", "border-[#ffffff]"] ∧
      (border ctx "none RGB(1, 2, 3) 1px #fff").warnings =
        ["token-miss: no exact match for color value rgb(1,2,3)",
          "token-miss: no exact match for color value #ffffff"] ∧
      (border ctx "none RGB(1, 2, 3) 1px #fff").classes.Perm (border ctx "#fff 1px RGB(1, 2, 3) none").classes ∧
      (border ctx "none RGB(1, 2, 3) 1px #fff").warnings.Perm (border ctx "#fff 1px RGB(1, 2, 3) none").warnings := by
  intro ctx
  have permuted : (values "none RGB(1, 2, 3) 1px #fff").Perm (values "#fff 1px RGB(1, 2, 3) none") := by
    decide +kernel
  obtain ⟨classes, warnings, _⟩ := border_in_any_order ctx _ _ permuted
  exact ⟨permuted, by decide +kernel, by decide +kernel, classes, warnings⟩

end Property
end UtilityCss
