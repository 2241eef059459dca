import UtilityCss.Proofs.Text.Unspaced
import UtilityCss.Proofs.Text.Written

namespace UtilityCss.Text

theorem isWord_of_mem_words (s word : String) (member : word ∈ words s) : IsWord word := by
  obtain ⟨piece, kept, rfl⟩ := List.mem_map.mp member
  obtain ⟨listed, filled⟩ := List.mem_filter.mp kept
  refine ⟨by simpa using filled, ?_⟩
  intro c inside
  rw [String.toList_ofList] at inside
  obtain ⟨front, back, shape⟩ := List.append_of_mem inside
  have unbroken := split_all_unbroken neutral_blank s.toList piece listed
  by_contra blank
  exact (unbroken_iff neutral_blank 0 piece).mp unbroken front c back shape (by simpa using blank)
    (depthAfter_none 0 front)

theorem IsWord.written {word : String} (isWord : IsWord word) : Written word.toList := by
  obtain ⟨c, rest, shape⟩ := List.exists_cons_of_ne_nil (mt String.toList_eq_nil_iff.mp isWord.filled)
  have member : c ∈ word.toList := by
    rw [shape]
    exact List.mem_cons_self
  exact ⟨c, member, isWord.unspaced c member⟩

theorem IsWord.words {word : String} (isWord : IsWord word) : words word = [word] := by
  have alone := words_of_spaced [word] (List.forall_mem_singleton.mpr isWord)
  rwa [String.intercalate_singleton] at alone

theorem flatMap_words (names : List String) (each : ∀ name ∈ names, IsWord name) : names.flatMap words = names := by
  induction names with
  | nil => rfl
  | cons name rest ih =>
    obtain ⟨first, others⟩ := List.forall_mem_cons.mp each
    rw [List.flatMap_cons, first.words, ih others, List.singleton_append]

theorem split_pieces_again (brackets : Brackets) (separates : Char → Bool) (depth : Nat) (cs : List Char) :
    splitOutside .none separates 0 cs =
      (splitOutside brackets separates depth cs).flatMap (splitOutside .none separates 0) := by
  induction cs generalizing depth with
  | nil => rfl
  | cons c rest ih =>
    by_cases separator : separates c = true
    · rw [split_at_separator 0 c rest separator rfl]
      by_cases outside : brackets.step depth c = 0
      · rw [split_at_separator depth c rest separator outside, List.flatMap_cons, ih 0]
        rfl
      · obtain ⟨first, others, later⟩ := split_cons_exists brackets separates (brackets.step depth c) rest
        rw [split_within depth c rest fun both => outside both.2, ih (brackets.step depth c), later, consFirst,
          List.flatMap_cons, List.flatMap_cons, split_at_separator 0 c first separator rfl, List.cons_append]
    · obtain ⟨first, others, later⟩ := split_cons_exists brackets separates (brackets.step depth c) rest
      obtain ⟨front, words, inner⟩ := split_cons_exists .none separates 0 first
      have within : splitOutside .none separates 0 (c :: first) = (c :: front) :: words := by
        rw [split_within 0 c first fun both => separator both.1]
        exact congrArg (consFirst c) inner
      have whole := ih (brackets.step depth c)
      rw [later, List.flatMap_cons, inner, List.cons_append] at whole
      rw [split_within 0 c rest fun both => separator both.1, split_within depth c rest fun both => separator both.1,
        later, consFirst, List.flatMap_cons, within, List.cons_append]
      exact congrArg (consFirst c) whole

theorem words_ofList (piece : List Char) :
    words (String.ofList piece) = ((splitOutside .none isBlank 0 piece).filter (· ≠ [])).map String.ofList := by
  rw [words, String.toList_ofList]

theorem words_of_pieces (brackets : Brackets) (s : String) : words s =
    (((splitOutside brackets isBlank 0 s.toList).filter (· ≠ [])).map String.ofList).flatMap words := by
  rw [words, split_pieces_again brackets isBlank 0]
  induction splitOutside brackets isBlank 0 s.toList with
  | nil => rfl
  | cons piece pieces ih =>
    rw [List.flatMap_cons, List.filter_append, List.map_append, ih]
    by_cases empty : piece = []
    · subst empty
      rfl
    · rw [List.filter_cons_of_pos (by simpa using empty), List.map_cons, List.flatMap_cons, words_ofList]

end UtilityCss.Text
