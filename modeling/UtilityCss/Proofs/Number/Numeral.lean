import Mathlib.Data.List.Basic
import UtilityCss.Number.Decimal
import UtilityCss.Proofs.Text.Written

namespace UtilityCss

namespace Text

theorem isDigit_range (c : Char) (digit : isDigit c = true) :
    ∃ first ∈ digitZeros, first ≤ c.toNat ∧ c.toNat ≤ first + 9 := by
  obtain ⟨_, value⟩ := Option.isSome_iff_exists.mp digit
  obtain ⟨first, found, _⟩ := Option.map_eq_some_iff.mp value
  refine ⟨first, List.mem_of_find?_eq_some found, ?_⟩
  simpa using List.find?_some found

theorem isBlank_of_isDigit (c : Char) (digit : isDigit c = true) : isBlank c = false := by
  obtain ⟨first, listed, within⟩ := isDigit_range c digit
  have apart := (by decide : ∀ first ∈ digitZeros, ∀ range ∈ blankRanges, first + 9 < range.1 ∨ range.2 < first)
    first listed
  rw [isBlank_eq_ranges, inRanges, List.any_eq_false]
  intro range blank
  have beside := apart range blank
  simp only [Bool.and_eq_true, decide_eq_true_eq]
  omega

theorem asciiLower_of_isDigit (c : Char) (digit : isDigit c = true) : asciiLower c = c := by
  obtain ⟨first, listed, within⟩ := isDigit_range c digit
  have apart := (by decide : ∀ first ∈ digitZeros, first + 9 < 0x41 ∨ 0x5a < first) first listed
  exact if_neg (by omega)

end Text

namespace Decimal
open Text

def Digits (cs : List Char) : Prop := ∀ c ∈ cs, isDigit c = true

-- Numerals as the units are read with: no exponent, no sign but a minus, and no point without digits behind
-- it.
def Numeral (cs : List Char) : Prop :=
  ∃ minus whole point fraction, cs = minus ++ whole ++ point ++ fraction ∧ (minus = [] ∨ minus = ['-']) ∧
    Digits whole ∧ (point = [] ∨ point = ['.']) ∧ Digits fraction ∧ fraction ≠ []

-- The two kinds of numerals, without their sign: only digits, or digits around a point.
inductive Magnitude : List Char → Prop
  | whole (digits : List Char) (only : Digits digits) (filled : digits ≠ []) : Magnitude digits
  | pointed (whole fraction : List Char) (before : Digits whole) (after : Digits fraction) (filled : fraction ≠ []) :
    Magnitude (whole ++ '.' :: fraction)

theorem numeral_iff (cs : List Char) : Numeral cs ↔ ∃ body, Magnitude body ∧ (cs = body ∨ cs = '-' :: body) := by
  constructor
  · rintro ⟨minus, whole, point, fraction, rfl, sign, before, mark, after, filled⟩
    refine ⟨whole ++ point ++ fraction, ?_, ?_⟩
    · rcases mark with rfl | rfl
      · rw [List.append_nil]
        exact .whole _ (List.forall_mem_append.mpr ⟨before, after⟩) (List.append_ne_nil_of_right_ne_nil whole filled)
      · rw [List.append_assoc, List.singleton_append]
        exact .pointed whole fraction before after filled
    · rcases sign with rfl | rfl
      · exact .inl (by simp)
      · exact .inr (by simp)
  · rintro ⟨body, magnitude, sign⟩
    obtain ⟨minus, signed, rfl⟩ : ∃ minus, (minus = [] ∨ minus = ['-']) ∧ cs = minus ++ body := by
      rcases sign with rfl | rfl
      · exact ⟨[], .inl rfl, rfl⟩
      · exact ⟨['-'], .inr rfl, rfl⟩
    cases magnitude with
    | whole _ only filled => exact ⟨minus, [], [], body, by simp, signed, nofun, .inl rfl, only, filled⟩
    | pointed whole fraction before after filled =>
      exact ⟨minus, whole, ['.'], fraction, by simp, signed, before, .inr rfl, after, filled⟩

theorem Magnitude.chars {body : List Char} (magnitude : Magnitude body) :
    ∀ c ∈ body, isDigit c = true ∨ c = '.' := by
  cases magnitude with
  | whole _ only _ => exact fun c member => .inl (only c member)
  | pointed whole fraction before after _ =>
    intro c member
    rcases List.mem_append.mp member with first | later
    · exact .inl (before c first)
    · rcases List.mem_cons.mp later with rfl | last
      · exact .inr rfl
      · exact .inl (after c last)

theorem Magnitude.filled {body : List Char} (magnitude : Magnitude body) : body ≠ [] := by
  cases magnitude with
  | whole _ _ filled => exact filled
  | pointed whole fraction _ _ _ => exact List.append_ne_nil_of_right_ne_nil whole (List.cons_ne_nil '.' fraction)

theorem Magnitude.takeMinus {body : List Char} (magnitude : Magnitude body) (rest : List Char) :
    takeMinus (body ++ rest) = (false, body ++ rest) := by
  obtain ⟨c, tail, rfl⟩ := List.exists_cons_of_ne_nil magnitude.filled
  have unsigned : c ≠ '-' := by
    rintro rfl
    exact absurd (magnitude.chars '-' List.mem_cons_self) (by decide)
  rw [List.cons_append, Decimal.takeMinus]
  rintro _ ⟨⟩
  exact unsigned rfl

theorem Magnitude.takeSign {body : List Char} (magnitude : Magnitude body) : takeSign body = (false, body) := by
  obtain ⟨c, tail, rfl⟩ := List.exists_cons_of_ne_nil magnitude.filled
  have unsigned := magnitude.chars c List.mem_cons_self
  unfold Decimal.takeSign
  split
  · rename_i same
    cases same
    exact absurd unsigned (by decide)
  · rename_i same
    cases same
    exact absurd unsigned (by decide)
  · rfl

theorem run_of_digits (digits rest : List Char) (only : Digits digits)
    (apart : ∀ c, rest.head? = some c → isDigit c = false) :
    digitRun (digits ++ rest) = digits ∧ afterDigits (digits ++ rest) = rest :=
  run_of_all digits rest only apart

theorem digitGroups_of_digits (digits : List Char) (only : Digits digits) : digitGroups? isDigit digits = some digits := by
  induction digits with
  | nil => rfl
  | cons c rest ih =>
    obtain ⟨here, later⟩ := List.forall_mem_cons.mp only
    cases rest with
    | nil => rw [digitGroups?, if_pos here]
    | cons d more =>
      have grouped : d ≠ '_' := by
        rintro rfl
        exact absurd (later '_' List.mem_cons_self) (by decide)
      rw [digitGroups?, if_pos here, ih later]
      · rfl
      · exact nofun
      · rintro _ ⟨⟩
        exact grouped rfl

theorem body_of_digits (digits rest : List Char) (only : Digits digits)
    (apart : ∀ c, rest.head? = some c → isNumeralBody isDigit c = false) :
    (digits ++ rest).takeWhile (isNumeralBody isDigit) = digits ∧
      (digits ++ rest).dropWhile (isNumeralBody isDigit) = rest := by
  apply run_of_all digits rest _ apart
  intro c member
  rw [isNumeralBody, only c member, Bool.true_or]

-- What may follow a numeral and is not taken for a part of it.
def Apart (rest : List Char) : Prop := ∀ c, rest.head? = some c → isDigit c = false ∧ c ≠ '.'

theorem Magnitude.reads {body : List Char} (magnitude : Magnitude body) (negative : Bool) :
    ∃ number, (∀ cs, Decimal.takeSign cs = (negative, body) → readPlain? isDigit cs = some number) ∧
      ∀ cs rest, Apart rest → Decimal.takeMinus cs = (negative, body ++ rest) →
        readLeading? cs = some (number, rest) := by
  cases magnitude with
  | whole _ only filled =>
    have present : body.isEmpty = false := by simpa using filled
    refine ⟨ofDigits negative body [] 0, ?_, ?_⟩
    · intro cs sign
      obtain ⟨run, rest⟩ := body_of_digits body [] only nofun
      rw [List.append_nil] at run rest
      simp only [readPlain?, sign, run, rest, digitGroups_of_digits body only]
      simp [readExponent?, filled]
    · intro cs rest apart sign
      obtain ⟨run, after⟩ := run_of_digits body rest only fun c first => (apart c first).1
      simp only [readLeading?, sign, run, after, present]
      split
      · rename_i tail
        exact absurd rfl (apart '.' rfl).2
      · rfl
  | pointed whole fraction before after filled =>
    have present : fraction.isEmpty = false := by simpa using filled
    refine ⟨ofDigits negative whole fraction 0, ?_, ?_⟩
    · intro cs sign
      obtain ⟨run, rest⟩ := body_of_digits whole ('.' :: fraction) before (by rintro c ⟨⟩; decide)
      obtain ⟨second, nothing⟩ := body_of_digits fraction [] after nofun
      rw [List.append_nil] at second nothing
      simp only [readPlain?, sign, run, rest, second, nothing, digitGroups_of_digits _ before,
        digitGroups_of_digits _ after]
      simp [readExponent?, filled]
    · intro cs rest apart sign
      obtain ⟨run, pointed⟩ := run_of_digits whole ('.' :: (fraction ++ rest)) before (by rintro c ⟨⟩; decide)
      obtain ⟨second, left⟩ := run_of_digits fraction rest after fun c first => (apart c first).1
      simp only [readLeading?, sign, List.append_assoc, List.cons_append, run, pointed, second, left, present]
      rfl

theorem Numeral.reads {cs : List Char} (numeral : Numeral cs) : ∃ number, readPlain? isDigit cs = some number ∧
    ∀ rest, Apart rest → readLeading? (cs ++ rest) = some (number, rest) := by
  obtain ⟨body, magnitude, rfl | rfl⟩ := (numeral_iff cs).mp numeral
  · obtain ⟨number, plain, leading⟩ := magnitude.reads false
    exact ⟨number, plain cs magnitude.takeSign, fun rest apart => leading _ rest apart (magnitude.takeMinus rest)⟩
  · obtain ⟨number, plain, leading⟩ := magnitude.reads true
    exact ⟨number, plain _ rfl, fun rest apart => leading _ rest apart rfl⟩

theorem readLeading?_numeral (cs rest : List Char) (number : Decimal) (reads : readLeading? cs = some (number, rest)) :
    ∃ numeral, Numeral numeral ∧ cs = numeral ++ rest := by
  have split (body : List Char) : digitRun body ++ afterDigits body = body := List.takeWhile_append_dropWhile
  have digits (body : List Char) : Digits (digitRun body) := fun c member => List.mem_takeWhile_imp member
  obtain ⟨minus, signed, whole⟩ : ∃ minus, (minus = [] ∨ minus = ['-']) ∧ cs = minus ++ (takeMinus cs).2 := by
    unfold takeMinus
    split
    · exact ⟨['-'], .inr rfl, rfl⟩
    · exact ⟨[], .inl rfl, rfl⟩
  have plain (after : List Char) (filled : digitRun (takeMinus cs).2 ≠ []) (left : afterDigits (takeMinus cs).2 = after) :
      ∃ numeral, Numeral numeral ∧ cs = numeral ++ after := by
    refine ⟨minus ++ digitRun (takeMinus cs).2,
      ⟨minus, [], [], _, by simp, signed, nofun, .inl rfl, digits _, filled⟩, ?_⟩
    rw [List.append_assoc, ← left, split]
    exact whole
  -- A point with no digits behind it belongs to the rest, so the numeral then ends in front of it.
  unfold readLeading? at reads
  dsimp only at reads
  split at reads
  · rename_i tail pointed
    split at reads
    · split at reads
      · cases reads
      · rename_i filled
        cases reads
        exact plain _ (by simpa using filled) pointed
    · rename_i filled
      cases reads
      refine ⟨minus ++ digitRun (takeMinus cs).2 ++ ['.'] ++ digitRun tail,
        ⟨minus, _, ['.'], _, rfl, signed, digits _, .inr rfl, digits _, by simpa using filled⟩, ?_⟩
      rw [List.append_assoc, split tail, List.append_assoc, List.singleton_append, ← pointed, List.append_assoc, split]
      exact whole
  · split at reads
    · cases reads
    · rename_i filled
      cases reads
      exact plain _ (by simpa using filled) rfl

theorem Numeral.chars {cs : List Char} (numeral : Numeral cs) :
    ∀ c ∈ cs, isDigit c = true ∨ c = '.' ∨ c = '-' := by
  obtain ⟨body, magnitude, rfl | rfl⟩ := (numeral_iff cs).mp numeral
  · exact fun c member => (magnitude.chars c member).imp_right .inl
  · refine List.forall_mem_cons.mpr ⟨.inr (.inr rfl), ?_⟩
    exact fun c member => (magnitude.chars c member).imp_right .inl

theorem Numeral.stripped {cs : List Char} (numeral : Numeral cs) : stripped isSpace cs = cs := by
  have unspaced : ∀ c ∈ cs, isSpace c = false := by
    intro c member
    by_contra space
    have blank := isBlank_of_isSpace c (by simpa using space)
    rcases numeral.chars c member with digit | rfl | rfl
    · rw [isBlank_of_isDigit c digit] at blank
      cases blank
    · exact absurd blank (by decide)
    · exact absurd blank (by decide)
  exact stripped_of_tight cs ⟨fun c first => unspaced c (List.mem_of_mem_head? first),
    fun c last => unspaced c (List.mem_of_getLast? last)⟩

theorem Numeral.nameless {cs : List Char} (numeral : Numeral cs) : Binary64.ofName? (cs.map asciiLower) = none := by
  have same : cs.map asciiLower = cs := by
    refine (List.map_congr_left fun c member => ?_).trans (List.map_id' cs)
    rcases numeral.chars c member with digit | rfl | rfl
    · exact asciiLower_of_isDigit c digit
    · rfl
    · rfl
  have within : (takeSign cs).2 ⊆ cs := by
    unfold takeSign
    split
    · exact List.subset_cons_self _ _
    · exact List.subset_cons_self _ _
    · exact List.Subset.refl cs
  have unnamed (name : List Char) (letter : Char) (other : ¬(isDigit letter = true ∨ letter = '.' ∨ letter = '-'))
      (listed : letter ∈ name) : ((takeSign cs).2 == name) = false := by
    rw [beq_eq_false_iff_ne]
    rintro rfl
    exact other (numeral.chars letter (within listed))
  unfold Binary64.ofName?
  dsimp only
  rw [same, unnamed "inf".toList 'i' (by decide) (by decide), unnamed "infinity".toList 'i' (by decide) (by decide),
    unnamed "nan".toList 'n' (by decide) (by decide)]
  rfl

theorem Numeral.accepted {cs : List Char} (numeral : Numeral cs) : ∃ number,
    Binary64.read? isSpace isDigit (String.ofList cs) = some number.toBinary64 ∧
      ∀ rest, Apart rest → readLeading? (cs ++ rest) = some (number, rest) := by
  obtain ⟨number, plain, leading⟩ := numeral.reads
  refine ⟨number, ?_, leading⟩
  unfold Binary64.read?
  dsimp only
  rw [String.toList_ofList, numeral.stripped, numeral.nameless, plain]
  rfl

end Decimal
end UtilityCss
