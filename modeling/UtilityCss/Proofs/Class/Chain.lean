import UtilityCss.Class.Chain
import UtilityCss.Proofs.Distinct
import UtilityCss.Proofs.Text.Pieces
import UtilityCss.Proofs.Text.Trimmed

namespace UtilityCss
open Text

namespace Chain

theorem neutral_colon : Neutral .all (· == ':') := by
  intro depth c separator
  rw [beq_iff_eq] at separator
  subst separator
  rfl

def marks : List Char := [':', '[', '(', ']', ')']

theorem inert_of_unmarked (cs : List Char) (unmarked : ∀ c ∈ cs, c ∉ marks) : Inert .all (· == ':') cs := by
  intro c member
  have other := unmarked c member
  simp only [marks, List.mem_cons, List.not_mem_nil, or_false, not_or] at other
  refine ⟨beq_eq_false_iff_ne.mpr other.1, fun depth => ?_⟩
  simp [Brackets.step, Brackets.all, other]

theorem inert_of_blanks (cs : List Char) (blank : ∀ c ∈ cs, isBlank c = true) : Inert .all (· == ':') cs := by
  have dark : marks.all (!isBlank ·) = true := rfl
  apply inert_of_unmarked
  intro c member mark
  have here := List.all_eq_true.mp dark c mark
  rw [blank c member] at here
  exact Bool.false_ne_true here

def IsVariant (variant : String) : Prop := Closed .all (· == ':') 0 variant.toList

def IsBase (base : String) : Prop := Unbroken .all (· == ':') 0 base.toList

instance (variant : String) : Decidable (IsVariant variant) :=
  inferInstanceAs (Decidable (Closed _ _ _ _))

instance (base : String) : Decidable (IsBase base) := inferInstanceAs (Decidable (Unbroken _ _ _ _))

theorem toList_lead (variants : List String) :
    (lead variants).toList = ended ':' (variants.map String.toList) := by
  simp [lead, ended, String.toList_join, List.flatMap_map]

theorem toList_render (chain : Chain) :
    chain.render.toList = ended ':' (chain.variants.map String.toList) ++ chain.base.toList := by
  rw [render, String.toList_append, toList_lead]

theorem render_unled (base : String) : render ⟨[], base⟩ = base := String.empty_append

theorem parse_parts (name : String) :
    (parse name).variants.map String.toList = (splitOutside .all (· == ':') 0 name.toList).dropLast ∧
      (parse name).base.toList = (splitOutside .all (· == ':') 0 name.toList).getLastD [] := by
  constructor
  · simp only [parse, pieces, ← List.map_dropLast, List.map_map]
    simp [Function.comp_def]
  · simp only [parse, pieces, List.getLastD_eq_getLast?, List.getLast?_map]
    cases (splitOutside .all (· == ':') 0 name.toList).getLast? <;> simp

theorem render_parse (name : String) : (parse name).render = name := by
  obtain ⟨front, last⟩ := parse_parts name
  apply String.toList_inj.mp
  rw [toList_render, front, last]
  exact ended_split ':' (fun d separator => by simpa using separator) 0 name.toList

theorem parse_variants (name : String) : ∀ variant ∈ (parse name).variants, IsVariant variant := by
  intro variant member
  have front : variant.toList ∈ (parse name).variants.map String.toList := List.mem_map_of_mem member
  rw [(parse_parts name).1] at front
  exact split_front_closed neutral_colon _ _ front

theorem parse_base (name : String) : IsBase (parse name).base := by
  obtain ⟨first, rest, split⟩ := split_cons_exists .all (· == ':') 0 name.toList
  unfold IsBase
  rw [(parse_parts name).2]
  apply split_all_unbroken neutral_colon name.toList
  rw [split, List.getLastD_eq_getLast?, List.getLast?_eq_some_getLast (List.cons_ne_nil first rest)]
  exact List.getLast_mem _

theorem parse_render (variants : List String) (base : String)
    (segments : ∀ variant ∈ variants, IsVariant variant) (ends : IsBase base) :
    parse (render ⟨variants, base⟩) = ⟨variants, base⟩ := by
  have split : splitOutside .all (· == ':') 0 (render ⟨variants, base⟩).toList =
      variants.map String.toList ++ [base.toList] := by
    rw [toList_render]
    apply split_ended neutral_colon ':' rfl _ _ _ ends
    intro piece member
    obtain ⟨variant, known, rfl⟩ := List.mem_map.mp member
    exact segments variant known
  simp [parse, pieces, split, Function.comp_def]

theorem isVariant_trim (variant : String) : IsVariant (trim variant) ↔ IsVariant variant := by
  obtain ⟨front, back, whole, before, after⟩ := @stripped_split isBlank variant.toList
  unfold IsVariant
  conv => rhs; rw [whole]
  rw [toList_trim, closed_between (inert_of_blanks front before) (inert_of_blanks back after)]

theorem parse_underVariants (variants bases : List String) (segments : ∀ variant ∈ variants, IsVariant variant)
    (ends : ∀ base ∈ bases, IsBase base) :
    (underVariants variants bases).map parse = bases.map fun base => ⟨(variants.map trim).filter (· ≠ ""), base⟩ := by
  unfold underVariants
  dsimp only
  rw [List.map_map]
  apply List.map_congr_left
  intro base member
  refine parse_render _ base (fun segment kept => ?_) (ends base member)
  obtain ⟨variant, known, rfl⟩ := List.mem_map.mp (List.mem_of_mem_filter kept)
  exact (isVariant_trim variant).mpr (segments variant known)

theorem mem_distinct (variants : List String) (variant : String) :
    variant ∈ distinct variants ↔ variant ∈ variants := List.mem_eraseDups

-- Whole segments go, and a segment leaves the depth at 0, so what stays is read as before.
theorem parse_collapse (name : String) :
    parse (collapse name) = ⟨distinct (parse name).variants, (parse name).base⟩ := by
  apply parse_render
  · intro variant member
    exact parse_variants name variant ((mem_distinct _ _).mp member)
  · exact parse_base name

theorem distinct_sublist (variants : List String) : (distinct variants).Sublist variants := eraseDups_sublist variants

theorem collapse_sublist (name : String) : (collapse name).toList.Sublist name.toList := by
  have fewer := (distinct_sublist (parse name).variants).map fun variant => variant.toList ++ [':']
  conv => rhs; rw [← render_parse name]
  rw [collapse, toList_render, toList_render, ended, ended, List.flatMap_map, List.flatMap_map, List.flatMap_def,
    List.flatMap_def]
  exact fewer.flatten.append_right _

theorem collapse_eq_self_iff (name : String) : collapse name = name ↔ (parse name).variants.Nodup := by
  constructor
  · intro same
    have read := parse_collapse name
    rw [same] at read
    rw [read]
    exact nodup_eraseDups _
  · intro once
    have kept : distinct (parse name).variants = (parse name).variants := eraseDups_of_nodup _ once
    rw [collapse, kept]
    exact render_parse name

theorem collapse_collapse (name : String) : collapse (collapse name) = collapse name := by
  rw [collapse_eq_self_iff, parse_collapse]
  exact nodup_eraseDups _

theorem collapse_keeps_firsts :
    (∀ name : String, parse (collapse name) = ⟨distinct (parse name).variants, (parse name).base⟩ ∧
      collapse (collapse name) = collapse name ∧ (parse (collapse name)).base = (parse name).base ∧
      (collapse name = name ↔ (parse name).variants.Nodup)) ∧
    ∀ variants : List String, (distinct variants).Sublist variants ∧ Firsts variants (distinct variants) := by
  constructor
  · intro name
    have read := parse_collapse name
    refine ⟨read, collapse_collapse name, ?_, collapse_eq_self_iff name⟩
    rw [read]
  · intro variants
    exact ⟨distinct_sublist variants, eraseDups_firsts variants⟩

-- Brackets that close each other across kinds, a closing one too many, and a base that is not closed.
example : collapse "md:[&:hover)::md:]::p-[(a:b]:md:c" = "md:[&:hover)::]:p-[(a:b]:md:c" := by decide +kernel

theorem distinct_cons (variant : String) (variants : List String) :
    ∃ others, distinct (variant :: variants) = variant :: others :=
  ⟨_, List.eraseDups_cons⟩

theorem collapse_head (name : String) : (collapse name).toList.head? = name.toList.head? := by
  conv => rhs; rw [← render_parse name]
  rw [collapse, toList_render, toList_render]
  cases (parse name).variants with
  | nil => rfl
  | cons variant variants =>
    obtain ⟨others, kept⟩ := distinct_cons variant variants
    rw [kept]
    cases shape : variant.toList <;> simp [ended, shape]

theorem getLast_ended (c : Char) (pieces : List (List Char)) (last : List Char) :
    (ended c pieces ++ last).getLast? = if pieces = [] then last.getLast? else
      some (last.getLast?.getD c) := by
  induction pieces with
  | nil => rfl
  | cons piece rest ih =>
    have shape : ended c (piece :: rest) ++ last = piece ++ c :: (ended c rest ++ last) := by
      simp [ended]
    rw [shape, List.getLast?_append, List.getLast?_cons, ih]
    by_cases empty : rest = [] <;> simp [empty]

theorem collapse_last (name : String) : (collapse name).toList.getLast? = name.toList.getLast? := by
  conv => rhs; rw [← render_parse name]
  rw [collapse, toList_render, toList_render, getLast_ended, getLast_ended]
  cases (parse name).variants with
  | nil => rfl
  | cons variant variants =>
    obtain ⟨others, kept⟩ := distinct_cons variant variants
    simp [kept]

theorem trim_collapse (name : String) (trimmed : trim name = name) :
    trim (collapse name) = collapse name := by
  rw [trim_eq_self] at *
  rw [Tight, collapse_head, collapse_last]
  exact trimmed

def canonical (name : String) : String := collapse (trim name)

theorem canonical_subset (name : String) : (canonical name).toList ⊆ name.toList :=
  ((collapse_sublist (trim name)).trans (trim_sublist name)).subset

theorem canonical_canonical (name : String) : canonical (canonical name) = canonical name := by
  unfold canonical
  rw [trim_collapse _ (trim_trim name), collapse_collapse]

-- A class that nothing is cut off from, and that no part of can be taken for a variant.
structure IsBare (name : String) : Prop where
  filled : name ≠ ""
  trimmed : trim name = name
  base : IsBase name

instance (name : String) : Decidable (IsBare name) :=
  decidable_of_iff (name ≠ "" ∧ trim name = name ∧ IsBase name)
    ⟨fun ⟨filled, trimmed, base⟩ => ⟨filled, trimmed, base⟩, fun bare => ⟨bare.filled, bare.trimmed, bare.base⟩⟩

structure IsSegment (variant : String) : Prop where
  filled : variant ≠ ""
  trimmed : trim variant = variant
  closed : IsVariant variant

theorem tight_render_of_first (variants : List String) (base : String) (bare : IsBare base)
    (begins : ∀ first ∈ variants.head?, ∀ c, first.toList.head? = some c → isBlank c = false) :
    Tight isBlank (render ⟨variants, base⟩).toList := by
  have ends := (trim_eq_self base).mp bare.trimmed
  have filled : base.toList ≠ [] := mt String.toList_eq_nil_iff.mp bare.filled
  rw [toList_render]
  constructor
  · cases variants with
    | nil => exact ends.1
    | cons variant others =>
      have unblank := begins variant rfl
      cases shape : variant.toList with
      | nil =>
        simp only [ended, List.map_cons, shape, List.flatMap_cons]
        rintro c ⟨⟩
        rfl
      | cons d rest =>
        simp only [ended, List.map_cons, shape, List.flatMap_cons]
        rintro c ⟨⟩
        exact unblank _ (by rw [shape]; rfl)
  · rw [Tight] at ends
    rw [List.getLast?_append_of_ne_nil _ filled]
    exact ends.2

theorem tight_render (variants : List String) (base : String) (segments : ∀ variant ∈ variants, IsSegment variant)
    (bare : IsBare base) : Tight isBlank (render ⟨variants, base⟩).toList := by
  apply tight_render_of_first variants base bare
  intro first leads
  exact ((trim_eq_self first).mp (segments first (List.mem_of_mem_head? leads)).trimmed).1

theorem canonical_render (variants : List String) (base : String)
    (segments : ∀ variant ∈ variants, IsSegment variant) (bare : IsBare base) :
    canonical (render ⟨variants, base⟩) = render ⟨distinct variants, base⟩ := by
  have trimmed : trim (render ⟨variants, base⟩) = render ⟨variants, base⟩ :=
    (trim_eq_self _).mpr (tight_render variants base segments bare)
  have read := parse_render variants base (fun variant member => (segments variant member).closed) bare.base
  rw [canonical, trimmed, collapse, read]

theorem isVariant_trimStart (variant : String) (segment : IsVariant variant) : IsVariant (trimStart variant) := by
  have front : Inert .all (· == ':') (variant.toList.takeWhile isBlank) :=
    inert_of_blanks _ (List.all_eq_true.mp List.all_takeWhile)
  have whole : variant.toList = variant.toList.takeWhile isBlank ++ variant.toList.dropWhile isBlank ++ [] := by
    rw [List.append_nil, List.takeWhile_append_dropWhile]
  unfold IsVariant at segment ⊢
  rw [whole, closed_between front (List.forall_mem_nil _)] at segment
  rwa [toList_trimStart]

theorem trim_render (variants : List String) (base : String) (bare : IsBare base) :
    trim (render ⟨variants, base⟩) = render ⟨variants.modifyHead trimStart, base⟩ := by
  cases variants with
  | nil =>
    rw [List.modifyHead_nil, render_unled]
    exact bare.trimmed
  | cons first rest =>
    have tight := tight_render_of_first (trimStart first :: rest) base bare (by
      intro _ leads c begins
      cases leads
      rw [toList_trimStart] at begins
      exact dropWhile_head _ c begins)
    have whole : (render ⟨first :: rest, base⟩).toList =
        first.toList.takeWhile isBlank ++ (render ⟨trimStart first :: rest, base⟩).toList := by
      simp only [toList_render, ended, List.map_cons, List.flatMap_cons, toList_trimStart, ← List.append_assoc,
        List.takeWhile_append_dropWhile]
    apply String.toList_inj.mp
    rw [toList_trim, whole, List.modifyHead_cons]
    exact stripped_behind _ _ (List.all_eq_true.mp List.all_takeWhile) tight

-- The variants of a class as it enters an order: no white space in front of the first, and each of them once.
def settled (variants : List String) : List String := distinct (variants.modifyHead trimStart)

theorem modifyHead_variants (variants : List String) (segments : ∀ variant ∈ variants, IsVariant variant) :
    ∀ variant ∈ variants.modifyHead trimStart, IsVariant variant := by
  cases variants with
  | nil => exact segments
  | cons first rest =>
    obtain ⟨here, later⟩ := List.forall_mem_cons.mp segments
    exact List.forall_mem_cons.mpr ⟨isVariant_trimStart first here, later⟩

theorem settled_variants (variants : List String) (segments : ∀ variant ∈ variants, IsVariant variant) :
    ∀ variant ∈ settled variants, IsVariant variant :=
  fun variant member => modifyHead_variants variants segments variant ((mem_distinct _ _).mp member)

theorem canonical_of_variants (variants : List String) (base : String)
    (segments : ∀ variant ∈ variants, IsVariant variant) (bare : IsBare base) :
    canonical (render ⟨variants, base⟩) = render ⟨settled variants, base⟩ := by
  have read := parse_render _ base (modifyHead_variants variants segments) bare.base
  rw [canonical, trim_render variants base bare, collapse, read]
  rfl

theorem render_ne_empty (variants : List String) (base : String) (filled : base ≠ "") :
    render ⟨variants, base⟩ ≠ "" := by
  rw [render]
  intro empty
  exact filled (String.append_eq_empty_iff.mp empty).2

theorem base_canonical (name : String) : (parse (canonical name)).base = (parse (trim name)).base := by
  rw [canonical, parse_collapse]

end Chain

theorem mem_distinctClasses (classes : List String) (name : String) :
    name ∈ distinctClasses classes ↔ name ≠ "" ∧ ∃ written ∈ classes, Chain.canonical written = name := by
  have blank : Chain.canonical "" = "" := by decide +kernel
  unfold distinctClasses
  simp only [List.mem_eraseDups, List.mem_filter, List.mem_map, decide_eq_true_eq]
  constructor
  · rintro ⟨⟨written, ⟨member, _⟩, rfl⟩, filled⟩
    exact ⟨filled, written, member, rfl⟩
  · rintro ⟨filled, written, member, rfl⟩
    refine ⟨⟨written, ⟨member, ?_⟩, rfl⟩, filled⟩
    rintro rfl
    exact filled blank

theorem distinctClasses_nodup (classes : List String) : (distinctClasses classes).Nodup :=
  nodup_eraseDups _

end UtilityCss
