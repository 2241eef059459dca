import Mathlib.Data.List.Basic
import UtilityCss.Proofs.Text.Written

namespace UtilityCss.Text

-- The letters that a run makes stand outside of another run, or between its letters where it has every
-- second one.
def CaseRun.clears (run other : CaseRun) : Bool :=
  let low := (run.first + run.shift).toNat
  let high := (run.last + run.shift).toNat
  Nat.blt high other.first || Nat.blt other.last low ||
    (other.step == 2 && (run.step == 2 || run.first == run.last) && (low + other.first) % 2 == 1)

theorem caseRuns_clear : (caseRuns.all fun run => caseRuns.all run.clears) = true := by
  decide +kernel

-- The dotted capital is the one letter beside the runs that has a lowering of its own.
def dottedCapital : Nat := 0x130

theorem caseRuns_avoid_dotted : ∀ run ∈ caseRuns, 0 < run.first + run.shift ∧
    (run.last + run.shift < dottedCapital ∨ dottedCapital < run.first + run.shift) := by
  decide +kernel

def Settled (n : Nat) : Prop := ∀ run ∈ caseRuns, run.covers n = false

theorem covers_cleared (run other : CaseRun) (n : Nat) (clears : run.clears other = true)
    (positive : 0 < run.first + run.shift) (covers : run.covers n = true) :
    other.covers (n + run.shift).toNat = false := by
  simp only [CaseRun.clears, CaseRun.covers, Bool.or_eq_true, Bool.and_eq_true, Nat.blt_eq,
    decide_eq_true_eq, beq_iff_eq] at clears covers
  obtain ⟨⟨low, high⟩, place⟩ := covers
  by_contra covered
  simp only [CaseRun.covers, Bool.not_eq_false, Bool.and_eq_true, decide_eq_true_eq, beq_iff_eq] at covered
  obtain ⟨⟨least, most⟩, phase⟩ := covered
  rcases clears with (above | below) | ⟨⟨second, alike⟩, odd⟩
  · omega
  · omega
  · rw [second] at phase
    rcases alike with pairs | single
    · rw [pairs] at place
      omega
    · omega

theorem lowerCodePoint_settled (n : Nat) : Settled (lowerCodePoint n) := by
  rcases lowerCodePoint_cases n with ⟨settled, stays⟩ | ⟨run, member, covers, moved⟩
  · rwa [stays]
  · rw [moved]
    intro other listed
    have clears := List.all_eq_true.mp (List.all_eq_true.mp caseRuns_clear run member) other listed
    exact covers_cleared run other n clears (caseRuns_avoid_dotted run member).1 covers

theorem lowerCodePoint_not_dotted (n : Nat) (other : n ≠ dottedCapital) :
    lowerCodePoint n ≠ dottedCapital := by
  rw [← inRanges_point] at other ⊢
  refine lowerCodePoint_avoids _ (fun run listed => List.forall_mem_singleton.mpr ⟨by decide, ?_⟩) n other
  exact (caseRuns_avoid_dotted run listed).2

theorem lowerCodePoint_of_settled (n : Nat) (settled : Settled n) : lowerCodePoint n = n := by
  rcases lowerCodePoint_cases n with ⟨_, stays⟩ | ⟨run, listed, covers, _⟩
  · exact stays
  · rw [settled run listed] at covers
    cases covers

-- A character that lower-casing leaves alone.
structure Lowered (c : Char) : Prop where
  noSigma : c ≠ capitalSigma
  kept : lowerChar c = [c]

theorem lowered_ascii (c : Char) (ascii : c.toNat < 0x80) (small : ¬(0x41 ≤ c.toNat ∧ c.toNat ≤ 0x5a)) :
    Lowered c := by
  constructor
  · rintro rfl
    exact absurd ascii (by decide)
  · simp only [lowerChar, ascii, if_true, lowerAscii, small, if_false]

theorem toNat_ofNat (n : Nat) (valid : n.isValidChar) : (Char.ofNat n).toNat = n := by
  rw [Char.ofNat, dif_pos valid]
  rfl

theorem lowered_settled (n : Nat) (settled : Settled n) (other : n ≠ dottedCapital) :
    Lowered (Char.ofNat n) := by
  by_cases valid : n.isValidChar
  · have point := toNat_ofNat n valid
    -- A settled code point is in no run of letters, so it is neither a capital of ASCII nor the capital sigma.
    have letters := settled ⟨0x41, 0x5a, 1, 32⟩ (by decide)
    have sigmas := settled ⟨0x3a3, 0x3ab, 1, 32⟩ (by decide)
    by_cases ascii : n < 0x80
    · apply lowered_ascii
      · rwa [point]
      · rw [point]
        intro capital
        simp [CaseRun.covers, capital.1, capital.2, Nat.mod_one] at letters
    · constructor
      · intro sigma
        have same : n = 0x3a3 := by
          rw [← point, sigma]
          rfl
        rw [same] at sigmas
        exact absurd sigmas (by decide)
      · have apart : (n == 0x130) = false := by simpa [dottedCapital] using other
        simp only [lowerChar, point, ascii, if_false, apart, Bool.false_eq_true,
          lowerCodePoint_of_settled n settled]
  · rw [Char.ofNat, dif_neg valid]
    exact lowered_ascii _ (by decide) (by decide)

theorem lowerChar_lowered (c : Char) : ∀ d ∈ lowerChar c, Lowered d := by
  intro d written
  unfold lowerChar at written
  split at written
  · rename_i ascii
    rw [List.mem_singleton] at written
    subst written
    unfold lowerAscii
    split
    · rename_i capital
      have point : (Char.ofNat (c.toNat + 32)).toNat = c.toNat + 32 :=
        toNat_ofNat _ (.inl (by omega))
      apply lowered_ascii
      · omega
      · omega
    · rename_i small
      exact lowered_ascii c ascii small
  · split at written
    -- The dotted capital alone becomes two characters, and neither is changed again.
    · have letters : d = 'i' ∨ d = Char.ofNat 0x307 := by simpa using written
      rcases letters with rfl | rfl
      · exact ⟨by decide, by decide⟩
      · exact ⟨by decide, by decide +kernel⟩
    · rename_i other
      rw [List.mem_singleton] at written
      subst written
      have apart : c.toNat ≠ dottedCapital := by simpa [dottedCapital] using other
      exact lowered_settled _ (lowerCodePoint_settled _) (lowerCodePoint_not_dotted _ apart)

-- What one character of a text becomes, whatever stands around it.
structure Lowering (c : Char) (here : List Char) : Prop where
  filled : here ≠ []
  written : isBlank c = false → ∀ d ∈ here, isBlank d = false
  lowered : ∀ d ∈ here, Lowered d

theorem lowerChar_lowering (c : Char) : Lowering c (lowerChar c) :=
  ⟨lowerChar_ne_nil c, lowerChar_kept c, lowerChar_lowered c⟩

theorem lowering_single (c d : Char) (kept : isBlank d = false) (lowered : Lowered d) : Lowering c [d] :=
  ⟨List.cons_ne_nil d [], by simpa using fun _ => kept, by simpa using lowered⟩

theorem lowerAfter_cons (before : List Char) (c : Char) (rest : List Char) :
    ∃ here, Lowering c here ∧ lowerAfter before (c :: rest) = here ++ lowerAfter (c :: before) rest := by
  refine ⟨_, ?_, rfl⟩
  split
  · split
    · exact lowering_single c _ (by decide) ⟨by decide, by decide +kernel⟩
    · exact lowering_single c _ (by decide) ⟨by decide, by decide +kernel⟩
  · exact lowerChar_lowering c

theorem lowerAfter_lowered (before cs : List Char) : ∀ d ∈ lowerAfter before cs, Lowered d := by
  induction cs generalizing before with
  | nil => exact nofun
  | cons c rest ih =>
    obtain ⟨here, lowering, whole⟩ := lowerAfter_cons before c rest
    intro d written
    rw [whole, List.mem_append] at written
    rcases written with first | later
    · exact lowering.lowered d first
    · exact ih (c :: before) d later

theorem lowerAfter_of_lowered (before cs : List Char) (lowered : ∀ c ∈ cs, Lowered c) :
    lowerAfter before cs = cs := by
  induction cs generalizing before with
  | nil => rfl
  | cons c rest ih =>
    obtain ⟨noSigma, kept⟩ := lowered c List.mem_cons_self
    have later := ih (c :: before) fun d member => lowered d (List.mem_cons_of_mem _ member)
    have apart : (c == capitalSigma) = false := by simpa using noSigma
    simp only [lowerAfter, apart, Bool.false_eq_true, if_false, kept, later, List.singleton_append]

theorem lowercase_lowercase (s : String) : lowercase (lowercase s) = lowercase s := by
  apply String.toList_inj.mp
  rw [toList_lowercase, toList_lowercase]
  exact lowerAfter_of_lowered [] _ (lowerAfter_lowered [] s.toList)

theorem lowerAfter_head (before : List Char) (c : Char) (rest : List Char) (kept : isBlank c = false) :
    ∀ d, (lowerAfter before (c :: rest)).head? = some d → isBlank d = false := by
  obtain ⟨here, lowering, whole⟩ := lowerAfter_cons before c rest
  intro d first
  rw [whole, List.head?_append_of_ne_nil _ lowering.filled] at first
  exact lowering.written kept d (List.mem_of_mem_head? first)

theorem lowerAfter_last (before cs : List Char) (kept : ∀ c, cs.getLast? = some c → isBlank c = false) :
    ∀ d, (lowerAfter before cs).getLast? = some d → isBlank d = false := by
  induction cs generalizing before with
  | nil => exact nofun
  | cons c rest ih =>
    obtain ⟨here, lowering, whole⟩ := lowerAfter_cons before c rest
    intro d last
    cases rest with
    | nil =>
      rw [whole, lowerAfter, List.append_nil] at last
      exact lowering.written (kept c rfl) d (List.mem_of_getLast? last)
    | cons next others =>
      have filled : lowerAfter (c :: before) (next :: others) ≠ [] := by
        obtain ⟨there, following, split⟩ := lowerAfter_cons (c :: before) next others
        rw [split]
        exact List.append_ne_nil_of_left_ne_nil following.filled _
      rw [whole, List.getLast?_append_of_ne_nil _ filled] at last
      exact ih (c :: before) (fun e => kept e) d last

theorem trim_lowercase (s : String) (trimmed : trim s = s) : trim (lowercase s) = lowercase s := by
  rw [trim_eq_self] at *
  rw [toList_lowercase]
  refine ⟨?_, lowerAfter_last [] s.toList trimmed.2⟩
  cases shape : s.toList with
  | nil => exact nofun
  | cons c rest => exact lowerAfter_head [] c rest (trimmed.1 c (by rw [shape]; rfl))

end UtilityCss.Text
