import UtilityCss.Proofs.Class.Chain
import UtilityCss.Proofs.Counting
import UtilityCss.Proofs.Text.Written
import UtilityCss.Report.Coverage

namespace UtilityCss
open Text

namespace Chain

theorem mem_lead (variants : List String) (c : Char) (part : c ≠ ':') :
    c ∈ (lead variants).toList ↔ ∃ variant ∈ variants, c ∈ variant.toList := by
  rw [toList_lead]
  simp [ended, part]

theorem mem_lead_kept (variants : List String) (c : Char) (part : c ≠ ':') (dark : isBlank c = false) :
    c ∈ (lead ((variants.map trim).filter (· ≠ ""))).toList ↔ ∃ variant ∈ variants, c ∈ variant.toList := by
  rw [mem_lead _ c part]
  constructor
  · rintro ⟨segment, kept, inside⟩
    obtain ⟨variant, known, rfl⟩ := List.mem_map.mp (List.mem_of_mem_filter kept)
    exact ⟨variant, known, (trim_sublist variant).subset inside⟩
  · rintro ⟨variant, known, inside⟩
    have stays := mem_trim_of_kept variant c inside dark
    have filled : trim variant ≠ "" := by
      intro empty
      simp [empty] at stays
    refine ⟨trim variant, ?_, stays⟩
    simpa [filled] using ⟨variant, known, rfl⟩

end Chain

def brackets : List Char := ['[', ']']

theorem isArbitrary_iff (name : String) : isArbitrary name = true ↔ ∀ bracket ∈ brackets, bracket ∈ name.toList := by
  simp [isArbitrary, brackets]

-- A class counts as arbitrary by having both brackets anywhere, its variants included.
def LacksBracket (variants : List String) (name : String) : Prop :=
  ∃ bracket ∈ brackets, bracket ∉ name.toList ∧ ∀ variant ∈ variants, bracket ∉ variant.toList

instance (variants : List String) (name : String) : Decidable (LacksBracket variants name) :=
  inferInstanceAs (Decidable (∃ bracket ∈ brackets, _))

theorem lacksBracket_iff (variants : List String) (name : String) : LacksBracket variants name ↔
    isArbitrary (Chain.lead ((variants.map trim).filter (· ≠ "")) ++ name) = false := by
  rw [← Bool.not_eq_true, isArbitrary_iff, not_forall]
  unfold LacksBracket
  refine exists_congr fun bracket => Iff.trans ?_ Classical.not_imp.symm
  refine and_congr_right fun listed => ?_
  have apart : bracket ≠ ':' ∧ isBlank bracket = false := by
    simp only [brackets, List.mem_cons, List.not_mem_nil, or_false] at listed
    rcases listed with rfl | rfl <;> decide
  rw [String.toList_append, List.mem_append, Chain.mem_lead_kept variants bracket apart.1 apart.2]
  simp [and_comm]

theorem not_isArbitrary_of_lacksBracket (variants : List String) (name : String)
    (lacks : LacksBracket variants name) : isArbitrary name = false := by
  obtain ⟨bracket, listed, absent, _⟩ := lacks
  rw [← Bool.not_eq_true, isArbitrary_iff]
  exact fun each => absent (each bracket listed)

theorem countNonArbitrary_underVariants (variants classes : List String) :
    countNonArbitrary (underVariants variants classes) =
      classes.countP fun name => decide (LacksBracket variants name) := by
  unfold countNonArbitrary underVariants
  rw [List.countP_map]
  apply List.countP_congr
  intro name _
  simp [lacksBracket_iff]

theorem countNonArbitrary_of_variants (variants classes : List String) :
    countNonArbitrary (underVariants variants classes) =
        (classes.countP fun name => decide (LacksBracket variants name)) ∧
      countNonArbitrary (underVariants variants classes) ≤ countNonArbitrary classes ∧
      (countNonArbitrary (underVariants variants classes) = countNonArbitrary classes ↔
        ∀ name ∈ classes, isArbitrary name = false → LacksBracket variants name) := by
  have within : ∀ name ∈ classes, decide (LacksBracket variants name) = true → (!isArbitrary name) = true := by
    intro name _ lacks
    rw [not_isArbitrary_of_lacksBracket variants name (of_decide_eq_true lacks)]
    rfl
  have same := countP_eq_iff _ _ classes within
  rw [countNonArbitrary_underVariants]
  refine ⟨rfl, List.countP_mono_left within, same.trans ?_⟩
  simp only [Bool.not_eq_true', decide_eq_true_eq]

theorem countNonArbitrary_of_bracketed_variant :
    countNonArbitrary (underVariants ["md", "data-[open]"] ["flex"]) = 0 ∧ countNonArbitrary ["flex"] = 1 := by
  decide +kernel

end UtilityCss
