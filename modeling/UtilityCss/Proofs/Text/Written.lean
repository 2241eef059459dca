import Mathlib.Data.List.TakeWhile
import UtilityCss.Proofs.Text.Trimmed
import UtilityCss.Text.Lowercase

namespace UtilityCss.Text

def Written (cs : List Char) : Prop := ∃ c ∈ cs, isBlank c = false

instance (cs : List Char) : Decidable (Written cs) :=
  decidable_of_iff (cs.any fun c => !isBlank c) (by simp [Written])

theorem Written.of_subset {cs ds : List Char} (within : cs ⊆ ds) (written : Written cs) : Written ds := by
  obtain ⟨c, member, kept⟩ := written
  exact ⟨c, within member, kept⟩

theorem Written.ne_nil {cs : List Char} (written : Written cs) : cs ≠ [] := by
  rintro rfl
  obtain ⟨_, member, _⟩ := written
  cases member

theorem mem_dropWhile_of_kept (drop : Char → Bool) (cs : List Char) (c : Char) (member : c ∈ cs)
    (kept : drop c = false) : c ∈ cs.dropWhile drop := by
  rw [← List.takeWhile_append_dropWhile (p := drop) (l := cs), List.mem_append] at member
  rcases member with dropped | later
  · have blank := List.mem_takeWhile_imp dropped
    rw [kept] at blank
    cases blank
  · exact later

theorem mem_stripped_of_kept (cs : List Char) (c : Char) (member : c ∈ cs) (kept : isBlank c = false) :
    c ∈ stripped isBlank cs := by
  have first := mem_dropWhile_of_kept isBlank cs c member kept
  have back := mem_dropWhile_of_kept isBlank _ c (List.mem_reverse.mpr first) kept
  exact List.mem_reverse.mpr back

theorem mem_trim_of_kept (s : String) (c : Char) (member : c ∈ s.toList) (kept : isBlank c = false) :
    c ∈ (trim s).toList := by
  rw [toList_trim]
  exact mem_stripped_of_kept s.toList c member kept

theorem written_stripped (cs : List Char) : Written (stripped isBlank cs) ↔ Written cs := by
  constructor
  · exact Written.of_subset (stripped_sublist cs).subset
  · rintro ⟨c, member, kept⟩
    exact ⟨c, mem_stripped_of_kept cs c member kept, kept⟩

theorem stripped_ne_nil_iff (cs : List Char) : stripped isBlank cs ≠ [] ↔ Written cs := by
  constructor
  · intro filled
    obtain ⟨c, rest, shape⟩ := List.exists_cons_of_ne_nil filled
    rw [← written_stripped, shape]
    have tight := @stripped_tight isBlank cs
    rw [shape] at tight
    exact ⟨c, List.mem_cons_self, tight.1 c rfl⟩
  · intro written
    exact ((written_stripped cs).mpr written).ne_nil

def blankRanges : List (Nat × Nat) :=
  [(0x9, 0xd), (0x1c, 0x20), (0x85, 0x85), (0xa0, 0xa0), (0x1680, 0x1680), (0x2000, 0x200a), (0x2028, 0x2029),
    (0x202f, 0x202f), (0x205f, 0x205f), (0x3000, 0x3000)]

theorem isBlank_eq_ranges (c : Char) : isBlank c = inRanges blankRanges c.toNat := by
  rw [Bool.eq_iff_iff]
  simp only [isBlank, isSpace, inRanges, blankRanges, List.any_cons, List.any_nil, Bool.or_false,
    Bool.or_eq_true, Bool.and_eq_true, decide_eq_true_eq, beq_iff_eq]
  omega

theorem inRanges_of_between (n : Nat) (between : 0x20 < n ∧ n < 0x85) : inRanges blankRanges n = false := by
  have apart : ∀ range ∈ blankRanges, range.2 ≤ 0x20 ∨ 0x85 ≤ range.1 := by decide
  rw [inRanges, List.any_eq_false]
  intro range listed
  have beside := apart range listed
  simp only [Bool.and_eq_true, decide_eq_true_eq]
  omega

theorem isBlank_of_range (c : Char) (within : 0x20 < c.toNat ∧ c.toNat < 0x80) : isBlank c = false := by
  rw [isBlank_eq_ranges]
  exact inRanges_of_between c.toNat (by omega)

theorem caseRuns_avoid_blanks : ∀ run ∈ caseRuns, ∀ range ∈ blankRanges, 0 < range.1 ∧
    (run.last + run.shift < range.1 ∨ range.2 < run.first + run.shift) := by
  decide +kernel

theorem lowerCodePoint_cases (n : Nat) :
    ((∀ run ∈ caseRuns, run.covers n = false) ∧ lowerCodePoint n = n) ∨
      ∃ run ∈ caseRuns, run.covers n = true ∧ lowerCodePoint n = (n + run.shift).toNat := by
  unfold lowerCodePoint
  cases found : caseRuns.find? (·.covers n) with
  | none => exact .inl ⟨by simpa using found, rfl⟩
  | some run =>
    have covers := List.find?_some found
    exact .inr ⟨run, List.mem_of_find?_eq_some found, covers, rfl⟩

theorem lowerCodePoint_avoids (ranges : List (Nat × Nat)) (avoided : ∀ run ∈ caseRuns, ∀ range ∈ ranges,
      0 < range.1 ∧ (run.last + run.shift < range.1 ∨ range.2 < run.first + run.shift))
    (n : Nat) (outside : inRanges ranges n = false) : inRanges ranges (lowerCodePoint n) = false := by
  rcases lowerCodePoint_cases n with ⟨_, stays⟩ | ⟨run, listed, covers, moved⟩
  · rwa [stays]
  · simp only [CaseRun.covers, Bool.and_eq_true, decide_eq_true_eq] at covers
    rw [moved, inRanges, List.any_eq_false]
    intro range member
    have beside := avoided run listed range member
    simp only [Bool.and_eq_true, decide_eq_true_eq]
    omega

theorem inRanges_point (point n : Nat) : inRanges [(point, point)] n = false ↔ n ≠ point := by
  simp only [inRanges, List.any_cons, List.any_nil, Bool.or_false, Bool.and_eq_false_iff, decide_eq_false_iff_not]
  omega

theorem isBlank_ofNat (n : Nat) (kept : inRanges blankRanges n = false) : isBlank (Char.ofNat n) = false := by
  rw [isBlank_eq_ranges]
  by_cases valid : n.isValidChar
  · rw [Char.ofNat, dif_pos valid]
    exact kept
  · rw [Char.ofNat, dif_neg valid]
    decide

theorem lowerAscii_kept (c : Char) (kept : isBlank c = false) : isBlank (lowerAscii c) = false := by
  unfold lowerAscii
  split
  · exact isBlank_ofNat _ (inRanges_of_between _ (by omega))
  · exact kept

theorem lowerChar_kept (c : Char) (kept : isBlank c = false) : ∀ d ∈ lowerChar c, isBlank d = false := by
  have apart : inRanges blankRanges c.toNat = false := by rw [← isBlank_eq_ranges, kept]
  unfold lowerChar
  split
  · simpa using lowerAscii_kept c kept
  · split
    · exact List.forall_mem_cons.mpr ⟨by decide, List.forall_mem_singleton.mpr (by decide)⟩
    · simpa using isBlank_ofNat _ (lowerCodePoint_avoids blankRanges caseRuns_avoid_blanks _ apart)

theorem lowerChar_ne_nil (c : Char) : lowerChar c ≠ [] := by
  unfold lowerChar
  split
  · exact List.cons_ne_nil _ _
  · split <;> exact List.cons_ne_nil _ _

theorem lowerChar_written (c : Char) (kept : isBlank c = false) : Written (lowerChar c) := by
  obtain ⟨d, rest, shape⟩ := List.exists_cons_of_ne_nil (lowerChar_ne_nil c)
  have member : d ∈ lowerChar c := by
    rw [shape]
    exact List.mem_cons_self
  exact ⟨d, member, lowerChar_kept c kept d member⟩

theorem lowerAfter_written (before cs : List Char) (written : Written cs) : Written (lowerAfter before cs) := by
  induction cs generalizing before with
  | nil => exact absurd rfl written.ne_nil
  | cons c rest ih =>
    obtain ⟨d, member, kept⟩ := written
    unfold lowerAfter
    rcases List.mem_cons.mp member with rfl | later
    · refine Written.of_subset (List.subset_append_left _ _) ?_
      split
      · split
        · exact ⟨_, List.mem_cons_self, by decide⟩
        · exact ⟨_, List.mem_cons_self, by decide⟩
      · exact lowerChar_written d kept
    · exact Written.of_subset (List.subset_append_right _ _) (ih (c :: before) ⟨d, later, kept⟩)

theorem lowercase_written (s : String) (written : Written s.toList) : Written (lowercase s).toList := by
  rw [toList_lowercase]
  exact lowerAfter_written [] s.toList written

end UtilityCss.Text
