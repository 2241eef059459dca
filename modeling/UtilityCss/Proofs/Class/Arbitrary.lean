import UtilityCss.Class.Arbitrary
import UtilityCss.Proofs.Class.Chain
import UtilityCss.Proofs.Css.Canonical

namespace UtilityCss
open Text

-- No more is closed than was opened, wherever the text is cut off.
def Covered (cs : List Char) : Prop :=
  ∀ front, front <+: cs → front.countP Brackets.all.closes ≤ front.countP Brackets.all.opens

instance (cs : List Char) : Decidable (Covered cs) :=
  decidable_of_iff (∀ front ∈ cs.inits, front.countP Brackets.all.closes ≤ front.countP Brackets.all.opens)
    (forall_congr' fun front => by rw [List.mem_inits])

theorem Covered.of_prefix {front cs : List Char} (covered : Covered cs) (lead : front <+: cs) : Covered front :=
  fun part within => covered part (within.trans lead)

theorem closes_of_opens (c : Char) (opens : Brackets.all.opens c = true) : Brackets.all.closes c = false := by
  simp only [Brackets.all, Bool.or_eq_true, beq_iff_eq] at opens
  rcases opens with rfl | rfl <;> rfl

theorem Covered.depthAfter {cs : List Char} (covered : Covered cs) (depth : Nat) :
    Brackets.all.depthAfter depth cs + cs.countP Brackets.all.closes = depth + cs.countP Brackets.all.opens := by
  -- The counter stops at 0, which would lose a closing bracket. It never does while every prefix is covered.
  induction cs using List.reverseRecOn with
  | nil => rfl
  | append_singleton front c ih =>
    have level := ih (covered.of_prefix (List.prefix_append _ _))
    have whole := covered _ (List.prefix_refl _)
    rw [List.countP_append, List.countP_append, List.countP_singleton, List.countP_singleton] at whole ⊢
    rw [depthAfter_append]
    change Brackets.all.step _ c + _ = _
    unfold Brackets.step
    cases opens : Brackets.all.opens c with
    | true =>
      simp only [closes_of_opens c opens, if_true, Bool.false_eq_true, if_false]
      omega
    | false =>
      cases closes : Brackets.all.closes c with
      | true =>
        simp only [opens, closes, if_true, Bool.false_eq_true, if_false] at whole ⊢
        omega
      | false =>
        simp only [Bool.false_eq_true, if_false]
        omega

theorem Covered.unbroken {cs : List Char} (covered : Covered cs) (depth : Nat) (within : depth ≠ 0) :
    Unbroken .all (· == ':') depth cs := by
  rw [unbroken_iff Chain.neutral_colon]
  intro front c back shape _
  have lead : front <+: cs := ⟨c :: back, shape.symm⟩
  have level := (covered.of_prefix lead).depthAfter depth
  have fewer := covered front lead
  omega

theorem unbroken_underscored (afterBlank : Bool) (depth : Nat) (cs : List Char)
    (unbroken : Unbroken .all (· == ':') depth cs) : Unbroken .all (· == ':') depth (underscored afterBlank cs) := by
  induction cs generalizing afterBlank depth with
  | nil => exact trivial
  | cons c rest ih =>
    unfold underscored
    split
    · rename_i blank
      have gap := Chain.inert_of_blanks [c] (List.forall_mem_singleton.mpr blank)
      have underscore : Inert .all (· == ':') ['_'] := Chain.inert_of_unmarked _ (by simp [Chain.marks])
      have later := ih true depth ((unbroken_behind gap depth rest).mp unbroken)
      split
      · exact later
      · exact (unbroken_behind underscore depth _).mpr later
    · exact ⟨unbroken.1, ih false _ unbroken.2⟩

theorem isBase_of_arbitrary (stem value base : String) (shape : base = arbitraryClass stem value)
    (plain : ∀ c ∈ stem.toList, c ∉ Chain.marks) (covered : Covered (Css.canonical value).toList) :
    Chain.IsBase base := by
  unfold arbitraryClass at shape
  dsimp only at shape
  generalize Css.canonical value = form at shape covered
  split at shape
  · subst shape
    exact trivial
  · subst shape
    have named : Inert .all (· == ':') (trim stem).toList :=
      Chain.inert_of_unmarked _ fun c member => plain c ((trim_sublist stem).subset member)
    have inside := unbroken_underscored false 1 form.toList (covered.unbroken 1 Nat.one_ne_zero)
    have opening : Unbroken .all (· == ':') 0 "-[".toList ∧ Brackets.all.depthAfter 0 "-[".toList = 1 := by decide
    have closing (depth : Nat) : Unbroken .all (· == ':') depth "]".toList := by simp [Unbroken]
    unfold Chain.IsBase
    simp only [String.toList_append, String.toList_ofList, List.append_assoc]
    rw [unbroken_behind named, unbroken_append, opening.2, unbroken_append]
    exact ⟨opening.1, inside, closing _⟩

theorem arbitraryClass_ne_empty (stem value : String) (named : Written stem.toList)
    (written : Written value.toList) : arbitraryClass stem value ≠ "" := by
  have kept := (Css.trim_ne_empty_iff stem).mpr named
  have filled := (Css.canonical_ne_empty_iff value).mpr written
  have neither : ¬(trim stem = "" ∨ Css.canonical value = "") := by
    rintro (blank | blank)
    · exact kept blank
    · exact filled blank
  unfold arbitraryClass
  dsimp only
  rw [if_neg neither]
  simp [kept]

theorem arbitraryClass_under_variants (stem value : String) (variants : List String)
    (plain : ∀ c ∈ stem.toList, c ∉ [':', '[', '(', ']', ')']) (covered : Covered (Css.canonical value).toList)
    (segments : ∀ variant ∈ variants, Chain.IsVariant variant) :
    (underVariants variants [arbitraryClass stem value]).map Chain.parse =
        [⟨(variants.map trim).filter (· ≠ ""), arbitraryClass stem value⟩] ∧
      (trim stem ≠ "" → trim value ≠ "" → arbitraryClass stem value ≠ "") := by
  have ends : ∀ base ∈ [arbitraryClass stem value], Chain.IsBase base := fun base member =>
    isBase_of_arbitrary stem value base (List.mem_singleton.mp member) plain covered
  refine ⟨Chain.parse_underVariants variants _ segments ends, fun named filled => ?_⟩
  exact arbitraryClass_ne_empty stem value ((Css.trim_ne_empty_iff stem).mp named)
    ((Css.trim_ne_empty_iff value).mp filled)

theorem arbitraryClass_under_variants_of_colons :
    (∀ c ∈ " bg ".toList, c ∉ [':', '[', '(', ']', ')']) ∧
      Covered (Css.canonical " url(https://a:b)  (x]:[y) --k:v ").toList ∧
      (∀ variant ∈ ["md", " ", " [&:hover] "], Chain.IsVariant variant) ∧
      trim " bg " ≠ "" ∧ trim " url(https://a:b)  (x]:[y) --k:v " ≠ "" ∧
      (underVariants ["md", " ", " [&:hover] "] [arbitraryClass " bg " " url(https://a:b)  (x]:[y) --k:v "]).map
          Chain.parse = [⟨["md", "[&:hover]"], "bg-[url(https://a:b)_(x]:[y)_--k:v]"⟩] := by
  have plain : ∀ c ∈ " bg ".toList, c ∉ [':', '[', '(', ']', ')'] := by simp
  have covered : Covered (Css.canonical " url(https://a:b)  (x]:[y) --k:v ").toList := by decide +kernel
  have segments : ∀ variant ∈ ["md", " ", " [&:hover] "], Chain.IsVariant variant := by decide +kernel
  have named : trim " bg " ≠ "" ∧ trim " url(https://a:b)  (x]:[y) --k:v " ≠ "" := by decide
  have read := (arbitraryClass_under_variants _ _ _ plain covered segments).1
  have kept : (["md", " ", " [&:hover] "].map trim).filter (· ≠ "") = ["md", "[&:hover]"] := by decide
  have made : arbitraryClass " bg " " url(https://a:b)  (x]:[y) --k:v " = "bg-[url(https://a:b)_(x]:[y)_--k:v]" := by
    decide +kernel
  rw [kept] at read
  refine ⟨plain, covered, segments, named.1, named.2, ?_⟩
  rw [read, made]

end UtilityCss
