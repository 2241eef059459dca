import Mathlib.Data.Prod.Lex
import Mathlib.Data.String.Basic
import UtilityCss.Proofs.Class.Sorting

namespace UtilityCss
open Text

namespace VariantRank

-- In the order of their precedence. A variant is of the first kind that takes it, so a screen may be named
-- like a state.
def kinds (screens : List String) : List ((String → Bool) × List String) :=
  [(screens.contains, screens), (pseudoVariants.contains, pseudoVariants),
    (beginsWith "group-", groupVariants), (beginsWith "peer-", peerVariants)]

-- The first kind that a variant is of, then its place among those of the kind. A variant that its kind does
-- not list comes after the listed ones, and one of no kind after all kinds.
def standing (screens : List String) (variant : String) : Nat ×ₗ Nat :=
  let kind := (kinds screens).findIdx fun row => row.1 variant
  let listed := ((kinds screens)[kind]?.map Prod.snd).getD []
  toLex (kind, listed.idxOf variant)

theorem of_standing (screens : List String) (variant : String) :
    VariantRank.of screens variant =
      ⟨(ofLex (standing screens variant)).1, (ofLex (standing screens variant)).2⟩ := by
  unfold VariantRank.of standing kinds
  simp only [List.findIdx_cons, List.findIdx_nil]
  cases screens.contains variant <;> cases pseudoVariants.contains variant <;>
    cases beginsWith "group-" variant <;> cases beginsWith "peer-" variant <;> rfl

theorem compare_of (screens : List String) (v w : String) :
    compare (VariantRank.of screens v) (VariantRank.of screens w) =
      (compare (ofLex (standing screens v)).1 (ofLex (standing screens w)).1).then
        (compare (ofLex (standing screens v)).2 (ofLex (standing screens w)).2) := by
  rw [of_standing, of_standing]
  rfl

theorem compare_of_lt (screens : List String) (v w : String) :
    compare (VariantRank.of screens v) (VariantRank.of screens w) = .lt ↔
      standing screens v < standing screens w := by
  rw [compare_of, Ordering.then_eq_lt, Prod.Lex.lt_iff, Nat.compare_eq_lt, Nat.compare_eq_lt,
    Nat.compare_eq_eq]

theorem compare_of_eq (screens : List String) (v w : String) :
    compare (VariantRank.of screens v) (VariantRank.of screens w) = .eq ↔
      standing screens v = standing screens w := by
  rw [compare_of, Ordering.then_eq_eq, Nat.compare_eq_eq, Nat.compare_eq_eq]
  exact Prod.ext_iff.symm

theorem ranks_isLE (screens vs ws : List String) :
    (compare (vs.map (VariantRank.of screens)) (ws.map (VariantRank.of screens))).isLE = true ↔
      vs.map (standing screens) ≤ ws.map (standing screens) := by
  induction vs generalizing ws with
  | nil =>
    have least : [] ≤ ws.map (standing screens) := not_lt.mp (List.not_lt_nil _)
    simp [List.isLE_compare_nil_left, least]
  | cons v vs ih =>
    cases ws with
    | nil =>
      simp
    | cons w ws =>
      rw [List.map_cons, List.map_cons, List.map_cons, List.map_cons, List.compare_cons_cons,
        Ordering.isLE_then_iff_or, compare_of_lt, compare_of_eq, ih, le_iff_lt_or_eq, le_iff_lt_or_eq,
        List.cons_lt_cons_iff, List.cons.injEq]
      tauto

theorem ranks_of_standings (screens vs ws : List String)
    (same : vs.map (standing screens) = ws.map (standing screens)) :
    vs.map (VariantRank.of screens) = ws.map (VariantRank.of screens) := by
  have shape : ∀ variants : List String, variants.map (VariantRank.of screens) =
      (variants.map (standing screens)).map fun place => ⟨(ofLex place).1, (ofLex place).2⟩ := by
    intro variants
    rw [List.map_map]
    exact List.map_congr_left fun variant _ => of_standing screens variant
  rw [shape, shape, same]

end VariantRank

namespace Chain

def standings (screens : List String) (name : String) : List (Nat ×ₗ Nat) :=
  (parse name).variants.map (VariantRank.standing screens)

theorem variants_of_lead (a b : String)
    (same : lead (parse a).variants = lead (parse b).variants) : (parse a).variants = (parse b).variants := by
  have read : ∀ name, parse (lead (parse name).variants) = ⟨(parse name).variants, ""⟩ := by
    intro name
    have whole := parse_render (parse name).variants "" (parse_variants name) trivial
    rwa [render, String.append_empty] at whole
  have both := read a
  rw [same, read b, Chain.mk.injEq] at both
  exact both.1.symm

theorem parse_base_again (name : String) : parse (parse name).base = ⟨[], (parse name).base⟩ := by
  have whole := parse_render [] (parse name).base nofun (parse_base name)
  rwa [render_unled] at whole

end Chain

theorem Group.ofClass_base (name : String) : ofClass (Chain.parse name).base = ofClass name := by
  rw [ofClass, ofClass, Chain.parse_base_again]

-- What a class has before every later one of a sorted list. Each level speaks where the ones above it tie.
structure Ascends (screens : List String) (a b : String) : Prop where
  depth : (Chain.parse a).variants.length ≤ (Chain.parse b).variants.length
  ranks : (Chain.parse a).variants.length = (Chain.parse b).variants.length →
    Chain.standings screens a ≤ Chain.standings screens b
  lead : Chain.standings screens a = Chain.standings screens b →
    Chain.lead (Chain.parse a).variants ≤ Chain.lead (Chain.parse b).variants
  group : Chain.lead (Chain.parse a).variants = Chain.lead (Chain.parse b).variants →
    (Group.ofClass a).number ≤ (Group.ofClass b).number

theorem ClassKey.levels (k l : ClassKey) (before : (compare k l).isLE = true) :
    k.depth ≤ l.depth ∧
      (k.depth = l.depth → (compare k.ranks l.ranks).isLE = true) ∧
      (k.depth = l.depth → k.ranks = l.ranks → k.lead ≤ l.lead) ∧
      (k.depth = l.depth → k.ranks = l.ranks → k.lead = l.lead → k.group ≤ l.group) := by
  have next : ∀ first later : Ordering, (first.then later).isLE = true →
      first.isLE = true ∧ (first = .eq → later.isLE = true) := by decide
  have tied : k.ranks = l.ranks → compareOn ranks k l = .eq := by
    intro same
    rw [compareOn, same]
    exact Std.ReflCmp.compare_self
  obtain ⟨depth, below⟩ := next _ _ before
  have ranks := fun tie => next _ _ (below (Nat.compare_eq_eq.mpr tie))
  have lead := fun tie same => next _ _ ((ranks tie).2 (tied same))
  have group := fun tie same text => next _ _
    ((lead tie same).2 (Std.LawfulEqOrd.compare_eq_iff_eq.mpr text))
  refine ⟨Nat.isLE_compare.mp depth, fun tie => (ranks tie).1, ?_, ?_⟩
  · intro tie same
    exact compare_le_iff_le.mp (Ordering.ne_gt_iff_isLE.mpr (lead tie same).1)
  · intro tie same text
    exact Nat.isLE_compare.mp (group tie same text).1

theorem ascends_of_precedes (screens : List String) (a b : String) (before : precedes screens a b = true) :
    Ascends screens a b := by
  obtain ⟨depth, ranks, lead, group⟩ := ClassKey.levels _ _ before
  simp only [ClassKey.readable, Group.ofClass_base] at depth ranks lead group
  have sameDepth : Chain.standings screens a = Chain.standings screens b →
      (Chain.parse a).variants.length = (Chain.parse b).variants.length := by
    intro tie
    simpa [Chain.standings] using congrArg List.length tie
  have sameRanks := VariantRank.ranks_of_standings screens (Chain.parse a).variants (Chain.parse b).variants
  refine ⟨depth, ?_, ?_, ?_⟩
  · intro tie
    exact (VariantRank.ranks_isLE screens _ _).mp (ranks tie)
  · intro tie
    exact lead (sameDepth tie) (sameRanks tie)
  · intro tie
    have sameChain := Chain.variants_of_lead a b tie
    have standings : Chain.standings screens a = Chain.standings screens b := by
      rw [Chain.standings, Chain.standings, sameChain]
    exact group (sameDepth standings) (sameRanks standings) tie

theorem Ascends.chain_between (screens : List String) (a b c : String) (ab : Ascends screens a b)
    (bc : Ascends screens b c) (same : (Chain.parse a).variants = (Chain.parse c).variants) :
    (Chain.parse b).variants = (Chain.parse a).variants := by
  have standings : Chain.standings screens c = Chain.standings screens a := by
    rw [Chain.standings, Chain.standings, same]
  have depth : (Chain.parse a).variants.length = (Chain.parse b).variants.length := by
    apply Nat.le_antisymm ab.depth
    rw [same]
    exact bc.depth
  have ranks : Chain.standings screens a = Chain.standings screens b := by
    apply le_antisymm (ab.ranks depth)
    rw [← standings]
    exact bc.ranks (by rw [← depth, same])
  have text : Chain.lead (Chain.parse a).variants = Chain.lead (Chain.parse b).variants := by
    apply le_antisymm (ab.lead ranks)
    rw [same]
    exact bc.lead (by rw [← ranks, standings])
  exact (Chain.variants_of_lead a b text).symm

theorem stretch_between {α : Type} (holds : α → Bool) (xs : List α)
    (between : ∀ a b c, [a, b, c].Sublist xs → holds a = true → holds c = true → holds b = true) :
    ∃ before block after, xs = before ++ block ++ after ∧ (∀ x ∈ block, holds x = true) ∧
      ∀ x ∈ before ++ after, holds x = false := by
  induction xs with
  | nil => exact ⟨[], [], [], rfl, nofun, nofun⟩
  | cons x rest ih =>
    obtain ⟨before, block, after, whole, inside, outside⟩ :=
      ih fun a b c within => between a b c (within.cons x)
    by_cases here : holds x = true
    · cases block with
      | nil =>
        refine ⟨[], [x], rest, rfl, by simpa using here, ?_⟩
        rw [whole, List.append_nil]
        exact outside
      | cons c block =>
        cases before with
        | nil =>
          refine ⟨[], x :: c :: block, after, by rw [whole]; rfl, ?_, outside⟩
          intro y member
          rcases List.mem_cons.mp member with rfl | later
          · exact here
          · exact inside y later
        | cons b before =>
          -- Something in front of the block would stand between two that hold, and so would hold itself.
          have within : [x, b, c].Sublist (x :: rest) := by
            rw [whole]
            simp
          have enclosed := between x b c within here (inside c List.mem_cons_self)
          rw [outside b List.mem_cons_self] at enclosed
          cases enclosed
    · refine ⟨x :: before, block, after, by rw [whole]; rfl, inside, ?_⟩
      intro y member
      rcases List.mem_cons.mp member with rfl | later
      · simpa using here
      · exact outside y later

theorem sortClasses_ascends (screens classes sorted : List String)
    (returns : sortClasses screens classes = .ok sorted) :
    sorted.Pairwise (Ascends screens) ∧
      ∀ variants, ∃ before block after, sorted = before ++ block ++ after ∧
        (∀ name ∈ block, (Chain.parse name).variants = variants) ∧
        (∀ name ∈ before ++ after, (Chain.parse name).variants ≠ variants) ∧
        block.Pairwise fun a b => (Group.ofClass a).number ≤ (Group.ofClass b).number := by
  obtain ⟨_, _, ordered⟩ := (sortClasses_eq_ok_iff screens classes sorted).mp returns
  have ascends : sorted.Pairwise (Ascends screens) := ordered.imp (ascends_of_precedes screens _ _)
  refine ⟨ascends, fun variants => ?_⟩
  obtain ⟨before, block, after, whole, inside, outside⟩ :=
    stretch_between (fun name => decide ((Chain.parse name).variants = variants)) sorted (by
      intro a b c within first last
      simp only [decide_eq_true_eq] at first last ⊢
      have three := ascends.sublist within
      simp only [List.pairwise_cons, List.mem_cons, List.not_mem_nil, or_false] at three
      have ab := three.1 b (.inl rfl)
      have bc := three.2.1 c rfl
      rw [Ascends.chain_between screens a b c ab bc (by rw [first, last]), first])
  simp only [decide_eq_true_eq, decide_eq_false_iff_not] at inside outside
  refine ⟨before, block, after, whole, inside, outside, ?_⟩
  have within : block.Sublist sorted := by
    rw [whole, List.append_assoc]
    exact (List.sublist_append_left block after).trans (List.sublist_append_right before _)
  refine (ascends.sublist within).imp_of_mem ?_
  intro a b first second ascend
  exact ascend.group (by rw [inside a first, inside b second])

theorem sortClasses_ascends_by_kind :
    let written := ["hover:p-1", "wide:p-4", "odd:flex", "peer-focus:p-2", "stuck:p-1", "flex", "wide:w-1/2",
      "group-x:p-2", "md:odd:p-1", "group-hover:p-2", "md:-m-1", "wide:static", "p-1"]
    let sorted := ["flex", "p-1", "wide:static", "wide:w-1/2", "wide:p-4", "md:-m-1", "odd:flex", "hover:p-1",
      "group-hover:p-2", "group-x:p-2", "peer-focus:p-2", "stuck:p-1", "md:odd:p-1"]
    sortClasses ["wide", "md"] written = .ok sorted ∧ sorted.Pairwise (Ascends ["wide", "md"]) ∧
      ∃ before block after, sorted = before ++ block ++ after ∧
        (∀ name ∈ block, (Chain.parse name).variants = ["wide"]) ∧
        (∀ name ∈ before ++ after, (Chain.parse name).variants ≠ ["wide"]) ∧
        block.Pairwise fun a b => (Group.ofClass a).number ≤ (Group.ofClass b).number := by
  intro written sorted
  have returns : sortClasses ["wide", "md"] written = .ok sorted := by
    rw [sortClasses_eq_ok_iff, legible_iff_distinct]
    decide +kernel
  obtain ⟨ascends, blocks⟩ := sortClasses_ascends ["wide", "md"] written sorted returns
  exact ⟨returns, ascends, blocks ["wide"]⟩

end UtilityCss
