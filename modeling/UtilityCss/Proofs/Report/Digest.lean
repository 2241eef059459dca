import UtilityCss.Proofs.Report.Warning
import UtilityCss.Proofs.Text.Phrase

namespace UtilityCss
open Text

namespace WarningCategory

def Marked (phrases : List String) (warning : String) : Prop := ∃ phrase ∈ phrases, mentions phrase warning = true

instance (phrases : List String) (warning : String) : Decidable (Marked phrases warning) :=
  inferInstanceAs (Decidable (∃ phrase ∈ phrases, _))

-- A category takes what its phrases mark, unless those of a category before it do. The last one takes the rest.
inductive Takes (warning : String) : WarningCategory → Prop
  | marked (before : List (WarningCategory × List String)) (category : WarningCategory) (phrases : List String)
      (after : List (WarningCategory × List String)) (row : markers = before ++ (category, phrases) :: after)
      (here : Marked phrases warning) (earlier : ∀ row ∈ before, ¬Marked row.2 warning) : Takes warning category
  | unmarked (nowhere : ∀ row ∈ markers, ¬Marked row.2 warning) : Takes warning other

def marking? (warning : String) : Option (WarningCategory × List String) :=
  markers.find? fun row => decide (Marked row.2 warning)

theorem of_marking (warning : String) : of warning = ((marking? warning).map Prod.fst).getD other := by
  have same : (fun row : WarningCategory × List String => row.2.any (contains · (lowercase warning))) =
      fun row => decide (Marked row.2 warning) := by
    funext row
    rw [Bool.eq_iff_iff, decide_eq_true_iff, List.any_eq_true]
    rfl
  unfold of marking?
  dsimp only
  rw [same]
  cases markers.find? _ <;> rfl

theorem takes_of (warning : String) : Takes warning (of warning) := by
  rw [of_marking]
  cases found : marking? warning with
  | none =>
    refine .unmarked fun row listed => ?_
    simpa using List.find?_eq_none.mp found row listed
  | some row =>
    obtain ⟨here, before, after, split, earlier⟩ := List.find?_eq_some_iff_append.mp found
    refine .marked before row.1 row.2 after split (of_decide_eq_true here) fun prior listed => ?_
    simpa using earlier prior listed

theorem of_takes (warning : String) (category : WarningCategory) (takes : Takes warning category) :
    of warning = category := by
  rw [of_marking]
  cases takes with
  | marked before category phrases after split here earlier =>
    have found : marking? warning = some (category, phrases) := by
      refine List.find?_eq_some_iff_append.mpr ⟨decide_eq_true here, before, after, split, ?_⟩
      simpa using earlier
    rw [found]
    rfl
  | unmarked nowhere =>
    have missed : marking? warning = none := by
      refine List.find?_eq_none.mpr ?_
      simpa using nowhere
    rw [missed]
    rfl

theorem takes_iff (warning : String) (category : WarningCategory) : Takes warning category ↔ of warning = category := by
  refine ⟨of_takes warning category, ?_⟩
  rintro rfl
  exact takes_of warning

instance (warning : String) (category : WarningCategory) : Decidable (Takes warning category) :=
  decidable_of_iff _ (takes_iff warning category).symm

theorem takes_unique (warning : String) : ∃! category, Takes warning category :=
  ⟨of warning, takes_of warning, fun taker takes => (of_takes warning taker takes).symm⟩

end WarningCategory

namespace WarningDigest

def counter? (digest : WarningDigest) (category : WarningCategory) : Option Int :=
  Entries.find? category.text digest.counts

theorem countIn_takes (category : WarningCategory) (warnings : List String) :
    countIn category warnings = warnings.countP fun warning => category.Takes warning := by
  apply List.countP_congr
  intro warning _
  rw [decide_eq_true_iff, WarningCategory.takes_iff, beq_iff_eq]

theorem counter_append (category : WarningCategory) (xs ys : List String) :
    ∃ m n, (of xs).counter? category = some m ∧ (of ys).counter? category = some n ∧
      (of (xs ++ ys)).counter? category = some (m + n) := by
  refine ⟨_, _, find_counts category xs, find_counts category ys, ?_⟩
  rw [counter?, find_counts, countIn_append, Nat.cast_add]

-- How a warning is listed: as it is, or once with the number of its occurrences.
inductive Shown (warnings : List String) : String → String → Prop
  | once (warning : String) (single : warnings.count warning = 1) : Shown warnings warning warning
  | again (warning : String) (times : Nat) (several : 1 < times) (counted : warnings.count warning = times) :
      Shown warnings warning (warning ++ " (" ++ toString times ++ " occurrences)")

theorem counted_shown (warnings : List String) (warning : String) (given : warning ∈ warnings) :
    Shown warnings warning (counted warning (warnings.count warning)) := by
  have some : 0 < warnings.count warning := List.count_pos_iff.mpr given
  unfold counted
  split
  · rename_i several
    exact .again warning _ several rfl
  · exact .once warning (by omega)

-- The distinct warnings are those of the digest one by one, and the counters count the warnings as they were given.
structure Keeps (warnings : List String) (digest : WarningDigest) : Prop where
  shown : ∃ firsts, Firsts warnings firsts ∧ List.Forall₂ (Shown warnings) firsts digest.warnings
  categories : digest.counts.map Prod.fst = WarningCategory.all.map WarningCategory.text
  counters : ∀ category : WarningCategory, digest.counter? category =
    some ((warnings.countP fun warning => category.Takes warning : Nat) : Int)
  taken : ∀ warning ∈ warnings, ∃! category : WarningCategory, category.Takes warning
  sum : (digest.counts.map Prod.snd).sum = warnings.length

theorem of_keeps (warnings : List String) : Keeps warnings (of warnings) where
  shown := by
    have firsts := eraseDups_firsts warnings
    refine ⟨warnings.eraseDups, firsts, ?_⟩
    rw [of, List.forall₂_map_right_iff, List.forall₂_same]
    intro warning member
    exact counted_shown warnings warning ((firsts.members warning).mp member)
  categories := rfl
  counters := by
    intro category
    rw [counter?, find_counts, countIn_takes]
  taken := fun warning _ => WarningCategory.takes_unique warning
  sum := counts_sum warnings

theorem of_conserves :
    (∀ warnings, Keeps warnings (of warnings)) ∧
    (∀ xs ys category, ∃ m n, (of xs).counter? category = some m ∧ (of ys).counter? category = some n ∧
      (of (xs ++ ys)).counter? category = some (m + n)) ∧
    ∀ xs ys, xs.Perm ys → (of ys).counts = (of xs).counts ∧ (of ys).warnings.Perm (of xs).warnings := by
  refine ⟨of_keeps, fun xs ys category => counter_append category xs ys, ?_⟩
  intro xs ys same
  exact ⟨counts_of_perm ys xs same.symm, warnings_perm ys xs same.symm⟩

theorem of_conserves_of_alike :
    let xs := ["Approximate arbitrary value", "dim", "dim (2 occurrences)", "dim", "NO DIRECT"]
    let ys := ["dim", "NO DIRECT", "dim (2 occurrences)", "Approximate arbitrary value", "dim"]
    Keeps xs (of xs) ∧ (of xs).warnings =
      ["Approximate arbitrary value", "dim (2 occurrences)", "dim (2 occurrences)", "NO DIRECT"] ∧
    (of xs).counts.map Prod.snd = [1, 1, 0, 0, 0, 3] ∧ xs.Perm ys ∧ (of ys).counts = (of xs).counts ∧
    (of ys).warnings.Perm (of xs).warnings := by
  intro xs ys
  have moved : xs.Perm ys := by decide +kernel
  obtain ⟨keeps, _, reordered⟩ := of_conserves
  exact ⟨keeps xs, by decide +kernel, by decide +kernel, moved, reordered xs ys moved⟩

end WarningDigest
end UtilityCss
