import Mathlib.Data.List.Infix
import UtilityCss.Text.Lowercase
import UtilityCss.Text.Search

namespace UtilityCss.Text

def mentions (phrase s : String) : Bool := contains phrase (lowercase s)

theorem occursIn_iff (needle cs : List Char) : occursIn needle cs = true ↔ needle <:+: cs := by
  induction cs with
  | nil => rw [occursIn, List.isEmpty_iff, List.infix_nil]
  | cons c rest ih =>
    rw [occursIn, Bool.or_eq_true, List.isPrefixOf_iff_prefix, ih, List.infix_cons_iff]

theorem prefix_of_apart (needle before after : List Char) (stop : Char) (apart : stop ∉ needle)
    (lead : needle <+: before ++ stop :: after) : needle <+: before := by
  have stopped : before ++ [stop] <+: before ++ stop :: after := ⟨after, by simp⟩
  rcases List.prefix_or_prefix_of_prefix lead stopped with within | beyond
  · rcases List.prefix_concat_iff.mp within with whole | short
    · rw [whole] at apart
      exact absurd (List.mem_append_right before List.mem_cons_self) apart
    · exact short
  · exact absurd (beyond.subset (List.mem_append_right before List.mem_cons_self)) apart

theorem infix_apart_iff (needle before after : List Char) (stop : Char) (apart : stop ∉ needle) :
    needle <:+: before ++ stop :: after ↔ needle <:+: before ∨ needle <:+: after := by
  constructor
  · intro occurs
    induction before with
    | nil =>
      rcases List.infix_cons_iff.mp occurs with lead | later
      · exact .inl (prefix_of_apart needle [] after stop apart lead).isInfix
      · exact .inr later
    | cons c rest ih =>
      rcases List.infix_cons_iff.mp occurs with lead | later
      · exact .inl (prefix_of_apart needle (c :: rest) after stop apart lead).isInfix
      · exact (ih later).imp_left List.infix_cons
  · rintro (front | back)
    · exact front.trans (List.prefix_append _ _).isInfix
    · exact (List.infix_cons back).trans (List.suffix_append _ _).isInfix

def finalSigma : Char := '\u03c2'
def smallSigma : Char := '\u03c3'

-- Which small sigma is written depends on what stands around it. With one for both, each character is lower-
-- cased by itself.
def oneSigma (c : Char) : Char := if c = finalSigma then smallSigma else c

def folded (cs : List Char) : List Char := (cs.flatMap lowerChar).map oneSigma

theorem folded_append (xs ys : List Char) : folded (xs ++ ys) = folded xs ++ folded ys := by
  rw [folded, List.flatMap_append, List.map_append]
  rfl

theorem folded_cons (c : Char) (rest : List Char) : folded (c :: rest) = folded [c] ++ folded rest :=
  folded_append [c] rest

theorem lowerAfter_folded (before cs : List Char) : (lowerAfter before cs).map oneSigma = folded cs := by
  induction cs generalizing before with
  | nil => rfl
  | cons c rest ih =>
    rw [lowerAfter, List.map_append, ih, folded_cons]
    congr 1
    by_cases sigma : c = capitalSigma
    · subst sigma
      rw [if_pos (beq_self_eq_true _)]
      split <;> decide +kernel
    · rw [if_neg (by simpa using sigma), folded, List.flatMap_singleton]

-- What a phrase is made of: its occurrences begin with a character that no blank is, and quotes and colons end
-- them.
structure Phrase (phrase : String) : Prop where
  noSigma : finalSigma ∉ phrase.toList ∧ smallSigma ∉ phrase.toList
  noColon : ':' ∉ phrase.toList
  noQuote : '\x27' ∉ phrase.toList
  begins : phrase.toList ≠ [] ∧ phrase.toList.head? ≠ some ' '

instance (phrase : String) : Decidable (Phrase phrase) :=
  decidable_of_iff ((finalSigma ∉ phrase.toList ∧ smallSigma ∉ phrase.toList) ∧ ':' ∉ phrase.toList ∧
      '\x27' ∉ phrase.toList ∧ phrase.toList ≠ [] ∧ phrase.toList.head? ≠ some ' ')
    ⟨fun ⟨sigma, colon, quote, begins⟩ => ⟨sigma, colon, quote, begins⟩,
      fun ⟨sigma, colon, quote, begins⟩ => ⟨sigma, colon, quote, begins⟩⟩

theorem map_oneSigma_iff (needle cs : List Char) (noSigma : finalSigma ∉ needle ∧ smallSigma ∉ needle) :
    cs.map oneSigma = needle ↔ cs = needle := by
  obtain ⟨noFinal, noSmall⟩ := noSigma
  constructor
  · intro same
    have kept : ∀ c ∈ cs, oneSigma c = c := by
      intro c member
      have here : oneSigma c ∈ needle := same ▸ List.mem_map_of_mem member
      unfold oneSigma at here ⊢
      split
      · rename_i final
        rw [if_pos final] at here
        exact absurd here noSmall
      · rfl
    rw [← same, List.map_congr_left kept, List.map_id']
  · rintro rfl
    have kept : ∀ c ∈ cs, oneSigma c = c := by
      intro c member
      refine if_neg ?_
      rintro rfl
      exact noFinal member
    rw [List.map_congr_left kept, List.map_id']

theorem infix_oneSigma_iff (needle cs : List Char) (noSigma : finalSigma ∉ needle ∧ smallSigma ∉ needle) :
    needle <:+: cs.map oneSigma ↔ needle <:+: cs := by
  constructor
  · rintro ⟨before, after, whole⟩
    obtain ⟨front, back, rfl, found, rfl⟩ := List.map_eq_append_iff.mp whole.symm
    obtain ⟨start, middle, rfl, rfl, same⟩ := List.map_eq_append_iff.mp found
    rw [map_oneSigma_iff needle middle noSigma] at same
    subst same
    exact ⟨start, back, rfl⟩
  · rintro ⟨before, after, rfl⟩
    have same : needle.map oneSigma = needle := (map_oneSigma_iff needle needle noSigma).mpr rfl
    refine ⟨before.map oneSigma, after.map oneSigma, ?_⟩
    rw [List.map_append, List.map_append, same]

theorem mentions_iff (phrase s : String) (plain : Phrase phrase) :
    mentions phrase s = true ↔ phrase.toList <:+: folded s.toList := by
  rw [mentions, contains, occursIn_iff, toList_lowercase, ← infix_oneSigma_iff _ _ plain.noSigma,
    lowerAfter_folded]

theorem mentions_labelled (phrase lead s : String) (plain : Phrase phrase) :
    mentions phrase (lead ++ ": " ++ s) = (mentions phrase lead || mentions phrase s) := by
  have mark : folded [':', ' '] = [':', ' '] := by decide
  rw [Bool.eq_iff_iff, Bool.or_eq_true, mentions_iff _ _ plain, mentions_iff _ _ plain, mentions_iff _ _ plain,
    String.toList_append, String.toList_append, folded_append, folded_append]
  change _ <:+: (folded lead.toList ++ folded [':', ' ']) ++ folded s.toList ↔ _
  rw [mark, List.append_assoc]
  change _ <:+: folded lead.toList ++ ':' :: (' ' :: folded s.toList) ↔ _
  rw [infix_apart_iff _ _ _ _ plain.noColon, List.infix_cons_iff]
  have unled : ¬phrase.toList <+: ' ' :: folded s.toList := by
    intro led
    obtain ⟨filled, begins⟩ := plain.begins
    obtain ⟨c, rest, shape⟩ := List.exists_cons_of_ne_nil filled
    rw [shape, List.cons_prefix_cons] at led
    rw [shape, List.head?_cons, led.1] at begins
    exact begins rfl
  simp only [unled, false_or]

theorem mentions_quoted (phrase lead s : String) (plain : Phrase phrase) :
    mentions phrase (lead ++ "'" ++ s ++ "'") = (mentions phrase lead || mentions phrase s) := by
  have mark : folded ['\x27'] = ['\x27'] := by decide
  rw [Bool.eq_iff_iff, Bool.or_eq_true, mentions_iff _ _ plain, mentions_iff _ _ plain, mentions_iff _ _ plain]
  simp only [String.toList_append, folded_append]
  change _ <:+: folded lead.toList ++ folded ['\x27'] ++ folded s.toList ++ folded ['\x27'] ↔ _
  rw [mark, infix_apart_iff _ _ _ _ plain.noQuote, List.append_assoc, List.singleton_append,
    infix_apart_iff _ _ _ _ plain.noQuote]
  have nowhere : ¬phrase.toList <:+: [] := by
    rw [List.infix_nil]
    exact plain.begins.1
  simp only [nowhere, or_false]

theorem mentions_noted (phrase s note : String) (plain : Phrase phrase) (noBracket : '(' ∉ phrase.toList)
    (ends : phrase.toList.getLast? ≠ some ' ') :
    mentions phrase (s ++ " (" ++ note) = (mentions phrase s || mentions phrase note) := by
  have mark : folded [' ', '('] = [' ', '('] := by decide
  rw [Bool.eq_iff_iff, Bool.or_eq_true, mentions_iff _ _ plain, mentions_iff _ _ plain, mentions_iff _ _ plain,
    String.toList_append, String.toList_append, folded_append, folded_append]
  change _ <:+: (folded s.toList ++ folded [' ', '(']) ++ folded note.toList ↔ _
  rw [mark, List.append_cons, List.append_assoc, List.singleton_append, infix_apart_iff _ _ _ _ noBracket,
    List.infix_concat_iff]
  have unended : ¬phrase.toList <:+ folded s.toList ++ [' '] := by
    rintro ⟨before, whole⟩
    have last := congrArg List.getLast? whole
    rw [List.getLast?_append_of_ne_nil _ plain.begins.1, List.getLast?_concat] at last
    exact ends last
  simp only [unended, false_or]

end UtilityCss.Text
