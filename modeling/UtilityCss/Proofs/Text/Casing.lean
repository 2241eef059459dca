import UtilityCss.Class.Arbitrary
import UtilityCss.Proofs.Text.Lowercase

namespace UtilityCss
open Text

namespace Text

def isFiller (c : Char) : Bool := isBlank c || c == '_'

-- White space becomes underscores in a class, so texts are compared by what is neither.
def solid (cs : List Char) : List Char := cs.filter fun c => !isFiller c

theorem solid_filler (c : Char) (rest : List Char) (filler : isFiller c = true) : solid (c :: rest) = solid rest :=
  List.filter_cons_of_neg (by simp [filler])

theorem solid_kept (c : Char) (rest : List Char) (kept : isFiller c = false) :
    solid (c :: rest) = c :: solid rest :=
  List.filter_cons_of_pos (by simp [kept])

theorem isFiller_of_isBlank (c : Char) (blank : isBlank c = true) : isFiller c = true := by
  rw [isFiller, blank, Bool.true_or]

theorem solid_dropWhile (cs : List Char) : solid (cs.dropWhile isBlank) = solid cs := by
  induction cs with
  | nil => rfl
  | cons c rest ih =>
    cases blank : isBlank c with
    | true => rw [List.dropWhile_cons_of_pos blank, ih, solid_filler c rest (isFiller_of_isBlank c blank)]
    | false => rw [List.dropWhile_cons_of_neg (by simp [blank])]

theorem solid_reverse (cs : List Char) : solid cs.reverse = (solid cs).reverse := List.filter_reverse

theorem solid_stripped (cs : List Char) : solid (stripped isBlank cs) = solid cs := by
  rw [stripped, dropEnd, solid_reverse, solid_dropWhile, solid_reverse, List.reverse_reverse, solid_dropWhile]

theorem solid_unblanked (cs : List Char) : solid (cs.filter fun c => !isBlank c) = solid cs := by
  rw [solid, List.filter_filter]
  apply List.filter_congr
  intro c _
  unfold isFiller
  cases isBlank c with
  | true => rfl
  | false => exact Bool.and_true _

theorem solid_underscored (afterBlank : Bool) (cs : List Char) : solid (underscored afterBlank cs) = solid cs := by
  induction cs generalizing afterBlank with
  | nil => rfl
  | cons c rest ih =>
    unfold underscored
    cases blank : isBlank c with
    | true =>
      rw [solid_filler c rest (isFiller_of_isBlank c blank)]
      cases afterBlank with
      | true => exact ih true
      | false => exact (solid_filler '_' _ rfl).trans (ih true)
    | false =>
      rw [if_neg Bool.false_ne_true]
      cases filler : isFiller c with
      | true => rw [solid_filler c _ filler, solid_filler c _ filler, ih false]
      | false => rw [solid_kept c _ filler, solid_kept c _ filler, ih false]

theorem caseRuns_skip_blanks : ∀ run ∈ caseRuns, ∀ range ∈ blankRanges,
    run.last < range.1 ∨ range.2 < run.first := by
  decide +kernel

theorem lowered_blank (c : Char) (blank : isBlank c = true) : Lowered c := by
  rw [isBlank_eq_ranges, inRanges, List.any_eq_true] at blank
  obtain ⟨range, listed, inside⟩ := blank
  simp only [Bool.and_eq_true, decide_eq_true_eq] at inside
  have settled : Settled c.toNat := by
    intro run member
    have apart := caseRuns_skip_blanks run member range listed
    simp only [CaseRun.covers, Bool.and_eq_false_iff, decide_eq_false_iff_not]
    omega
  have beside : range.2 < dottedCapital ∨ dottedCapital < range.1 :=
    (by decide : ∀ range ∈ blankRanges, range.2 < dottedCapital ∨ dottedCapital < range.1) range listed
  rw [← Char.ofNat_toNat c]
  exact lowered_settled c.toNat settled (by omega)

theorem lowered_filler (c : Char) (filler : isFiller c = true) : Lowered c := by
  rcases Bool.or_eq_true_iff.mp filler with blank | mark
  · exact lowered_blank c blank
  · rw [beq_iff_eq] at mark
    subst mark
    exact ⟨by decide, by decide⟩

def underscorePoint : Nat := 0x5f

theorem caseRuns_avoid_underscore : ∀ run ∈ caseRuns,
    run.last + run.shift < underscorePoint ∨ underscorePoint < run.first + run.shift := by
  decide +kernel

theorem lowerCodePoint_not_underscore (n : Nat) (other : n ≠ underscorePoint) :
    lowerCodePoint n ≠ underscorePoint := by
  rw [← inRanges_point] at other ⊢
  refine lowerCodePoint_avoids _ (fun run listed => List.forall_mem_singleton.mpr ⟨by decide, ?_⟩) n other
  exact caseRuns_avoid_underscore run listed

theorem ofNat_ne_underscore (n : Nat) (other : n ≠ underscorePoint) : Char.ofNat n ≠ '_' := by
  intro mark
  by_cases valid : n.isValidChar
  · have point := toNat_ofNat n valid
    rw [mark] at point
    exact other point.symm
  · rw [Char.ofNat, dif_neg valid] at mark
    exact absurd mark (by decide)

theorem underscore_of_lowerChar (c : Char) (written : '_' ∈ lowerChar c) : c = '_' := by
  unfold lowerChar at written
  split at written
  · have mark := (List.mem_singleton.mp written).symm
    unfold lowerAscii at mark
    split at mark
    · exact absurd mark (ofNat_ne_underscore _ (by unfold underscorePoint; omega))
    · exact mark
  · split at written
    · exact absurd written (by decide)
    · have mark := (List.mem_singleton.mp written).symm
      have wide : c.toNat ≠ underscorePoint := by
        unfold underscorePoint
        omega
      exact absurd mark (ofNat_ne_underscore _ (lowerCodePoint_not_underscore c.toNat wide))

theorem isFiller_eq_false (c : Char) : isFiller c = false ↔ isBlank c = false ∧ c ≠ '_' := by
  rw [isFiller, Bool.or_eq_false_iff, beq_eq_false_iff_ne]

theorem lowerAfter_front (before : List Char) (c : Char) (rest : List Char) (kept : isFiller c = false) :
    ∃ d more, lowerAfter before (c :: rest) = d :: more ∧ Lowered d ∧ isFiller d = false := by
  obtain ⟨solidly, other⟩ := (isFiller_eq_false c).mp kept
  have lowered := lowerAfter_lowered before (c :: rest)
  have unmarked : ∃ d more, lowerAfter before (c :: rest) = d :: more ∧ isFiller d = false := by
    unfold lowerAfter
    dsimp only
    split
    · split
      · exact ⟨_, _, rfl, by decide⟩
      · exact ⟨_, _, rfl, by decide⟩
    · obtain ⟨d, more, shape⟩ := List.exists_cons_of_ne_nil (lowerChar_ne_nil c)
      have member : d ∈ lowerChar c := by
        rw [shape]
        exact List.mem_cons_self
      refine ⟨d, more ++ lowerAfter (c :: before) rest, by rw [shape, List.cons_append], ?_⟩
      rw [isFiller_eq_false]
      refine ⟨lowerChar_kept c solidly d member, ?_⟩
      rintro rfl
      exact other (underscore_of_lowerChar c member)
  obtain ⟨d, more, shape, unfilled⟩ := unmarked
  exact ⟨d, more, shape, lowered d (by rw [shape]; exact List.mem_cons_self), unfilled⟩

theorem lowerAfter_of_lowered_cons (before : List Char) (c : Char) (rest : List Char) (lowered : Lowered c) :
    lowerAfter before (c :: rest) = c :: lowerAfter (c :: before) rest := by
  have apart : (c == capitalSigma) = false := by simpa using lowered.noSigma
  rw [lowerAfter, apart, lowered.kept]
  rfl

theorem solid_lowerAfter_iff (before cs : List Char) :
    solid (lowerAfter before cs) = solid cs ↔ ∀ c ∈ cs, Lowered c := by
  constructor
  · intro same
    induction cs generalizing before with
    | nil => nofun
    | cons c rest ih =>
      -- The first character that is no filler shows in the result, so it is its own lower case.
      have lowered : Lowered c := by
        cases kept : isFiller c with
        | true => exact lowered_filler c kept
        | false =>
          obtain ⟨d, more, shape, small, unfilled⟩ := lowerAfter_front before c rest kept
          rw [shape, solid_kept d more unfilled, solid_kept c rest kept] at same
          rwa [← (List.cons.inj same).1]
      refine List.forall_mem_cons.mpr ⟨lowered, ih (c :: before) ?_⟩
      rw [lowerAfter_of_lowered_cons before c rest lowered] at same
      cases kept : isFiller c with
      | true => rwa [solid_filler c _ kept, solid_filler c _ kept] at same
      | false =>
        rw [solid_kept c _ kept, solid_kept c _ kept] at same
        exact (List.cons.inj same).2
  · intro lowered
    rw [lowerAfter_of_lowered before cs lowered]

theorem lowercase_eq_self_iff (s : String) : lowercase s = s ↔ ∀ c ∈ s.toList, Lowered c := by
  rw [← solid_lowerAfter_iff [], ← String.toList_inj, toList_lowercase]
  constructor
  · intro same
    rw [same]
  · intro same
    exact lowerAfter_of_lowered [] _ ((solid_lowerAfter_iff [] _).mp same)

theorem solid_lowercase_iff (s : String) : solid (lowercase s).toList = solid s.toList ↔ lowercase s = s := by
  rw [toList_lowercase, solid_lowerAfter_iff, lowercase_eq_self_iff]

theorem solid_trim (s : String) : solid (trim s).toList = solid s.toList := by
  rw [toList_trim, solid_stripped]

theorem lowercase_trim_iff (s : String) : lowercase (trim s) = trim s ↔ lowercase s = s := by
  rw [lowercase_eq_self_iff, lowercase_eq_self_iff]
  constructor
  · intro each c member
    cases kept : isBlank c with
    | true => exact lowered_blank c kept
    | false => exact each c (mem_trim_of_kept s c member kept)
  · intro each c member
    exact each c ((trim_sublist s).subset member)

theorem mem_lowerAfter_of_lowered (before cs : List Char) (c : Char) (lowered : Lowered c) (member : c ∈ cs) :
    c ∈ lowerAfter before cs := by
  induction cs generalizing before with
  | nil => cases member
  | cons first rest ih =>
    rcases List.mem_cons.mp member with rfl | later
    · rw [lowerAfter_of_lowered_cons before c rest lowered]
      exact List.mem_cons_self
    · obtain ⟨here, _, whole⟩ := lowerAfter_cons before first rest
      rw [whole]
      exact List.mem_append_right here (ih (first :: before) later)

end Text
end UtilityCss
