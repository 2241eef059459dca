import UtilityCss.Proofs.Css.NormalForm

namespace UtilityCss.Css
open Text

theorem values_filled (value part : String) (member : part ∈ values value) : part ≠ "" := by
  obtain ⟨piece, kept, rfl⟩ := List.mem_map.mp member
  simpa using (List.mem_filter.mp kept).2

theorem round_step_of_blank (depth : Nat) (c : Char) (blank : isBlank c = true) :
    Brackets.round.step depth c = depth := by
  have bracket : ∀ d, isBlank d = false → (c == d) = false := by
    intro d kept
    rw [beq_eq_false_iff_ne]
    rintro rfl
    rw [blank] at kept
    cases kept
  simp [Brackets.step, Brackets.round, bracket '(' (by decide), bracket ')' (by decide)]

theorem neutral_round : Neutral .round isBlank := round_step_of_blank

theorem values_unbroken (value part : String) (member : part ∈ values value) :
    Unbroken .round isBlank 0 part.toList := by
  obtain ⟨piece, kept, rfl⟩ := List.mem_map.mp member
  rw [String.toList_ofList]
  exact split_all_unbroken neutral_round _ piece (List.mem_filter.mp kept).1

theorem values_front_closed (value : String) (front : List String) (last : String)
    (whole : values value = front ++ [last]) : ∀ part ∈ front, Closed .round isBlank 0 part.toList := by
  intro part member
  obtain ⟨pieces, final, split⟩ := (List.eq_nil_or_concat' _).resolve_left
    (splitOutside_ne_nil .round isBlank 0 (canonical value).toList)
  have closed := split_front_closed neutral_round (canonical value).toList
  rw [split, List.dropLast_concat] at closed
  have listed : part ∈ (pieces.filter (· ≠ [])).map String.ofList := by
    rw [values, split, List.filter_append, List.map_append] at whole
    by_cases empty : final = []
    · rw [List.filter_cons_of_neg (by simpa using empty), List.filter_nil, List.map_nil, List.append_nil] at whole
      rw [whole]
      exact List.mem_append_left _ member
    · rw [List.filter_cons_of_pos (by simpa using empty), List.filter_nil, List.map_singleton] at whole
      rwa [(List.append_inj' whole rfl).1]
  obtain ⟨piece, kept, rfl⟩ := List.mem_map.mp listed
  rw [String.toList_ofList]
  exact closed piece (List.mem_filter.mp kept).1

theorem join_values (value : String) : (String.join (values value)).toList =
    unseparated .round isBlank 0 (canonical value).toList := by
  rw [String.toList_join, values, List.flatMap_map, ← flatten_split, ← List.flatten_filter_ne_nil, List.flatMap_def]
  simp

theorem mem_values (value : String) (c : Char) (member : c ∈ (canonical value).toList) (kept : isBlank c = false) :
    ∃ part ∈ values value, c ∈ part.toList := by
  have inside : c ∈ unseparated .round isBlank 0 (canonical value).toList := mem_unseparated 0 _ c member kept
  rw [← join_values, String.toList_join] at inside
  exact List.mem_flatMap.mp inside

theorem values_of_proper (value : String) (proper : startsProperNoun (canonical value).toList = true) :
    ∃ a b more rest, values value = String.ofList (a :: b :: more) :: rest ∧ startsProperNoun [a, b] = true := by
  rcases shape : (canonical value).toList with _ | ⟨a, _ | ⟨b, tail⟩⟩
  · rw [shape] at proper
    cases proper
  · rw [shape] at proper
    cases proper
  · rw [shape] at proper
    have letters : (0x41 ≤ a.toNat ∧ a.toNat ≤ 0x5a) ∧ 0x61 ≤ b.toNat ∧ b.toNat ≤ 0x7a := by
      simpa [startsProperNoun] using proper
    have first : isBlank a = false := isBlank_of_range a (by omega)
    have second : isBlank b = false := isBlank_of_range b (by omega)
    obtain ⟨more, others, split⟩ := split_cons_exists .round isBlank
      (Brackets.round.step (Brackets.round.step 0 a) b) tail
    refine ⟨a, b, more, (others.filter (· ≠ [])).map String.ofList, ?_, proper⟩
    rw [values, shape, split_kept 0 a (b :: tail) first, split_kept _ b tail second, split, consFirst, consFirst,
      List.filter_cons_of_pos (by simp), List.map_cons]

theorem keepsCase_spaced (value : String) (kept : keepsCase (canonical value).toList = true) :
    keepsCase (String.intercalate " " (values value)).toList = true := by
  unfold keepsCase at *
  rw [Bool.or_eq_true] at *
  rcases kept with marked | proper
  · left
    obtain ⟨c, member, mark⟩ := List.any_eq_true.mp marked
    have written : isBlank c = false := by
      simp only [Bool.or_eq_true, beq_iff_eq] at mark
      rcases mark with (rfl | rfl) | rfl <;> decide
    obtain ⟨part, listed, inside⟩ := mem_values value c member written
    exact List.any_eq_true.mpr ⟨c, mem_spaced_of_mem _ part listed c inside, mark⟩
  · right
    obtain ⟨a, b, more, rest, whole, letters⟩ := values_of_proper value proper
    obtain ⟨tail, begins⟩ := spaced_begins (String.ofList (a :: b :: more)) rest
    rw [whole, begins, String.toList_ofList]
    exact letters

theorem lowered_spaced (value : String) (small : lowercase (canonical value) = canonical value) :
    lowercase (String.intercalate " " (values value)) = String.intercalate " " (values value) := by
  rw [lowercase_eq_self_iff] at *
  intro c member
  rcases mem_spaced _ c member with rfl | ⟨part, listed, inside⟩
  · exact lowered_blank ' ' (by decide)
  · have joined : c ∈ (String.join (values value)).toList := by
      rw [String.toList_join]
      exact List.mem_flatMap.mpr ⟨part, listed, inside⟩
    rw [join_values] at joined
    exact small c ((unseparated_sublist 0 _).subset joined)

theorem spaced_normal (value : String) : NormalValue (String.intercalate " " (values value)) := by
  have normal := canonical_normal value
  constructor
  · rw [trim_eq_self]
    apply spaced_tight _ (values_filled value)
    rw [join_values]
    exact unseparated_tight 0 _ ((trim_eq_self _).mp normal.trimmed)
  · exact normal.cased.imp (keepsCase_spaced value) (lowered_spaced value)

theorem values_spaced (value : String) : values (String.intercalate " " (values value)) = values value := by
  rcases List.eq_nil_or_concat' (values value) with empty | ⟨front, last, whole⟩
  · rw [empty]
    decide
  · have normal := canonical_of_normal _ (spaced_normal value)
    have closed := values_front_closed value front last whole
    have ends := values_unbroken value last (by simp [whole])
    have filled := values_filled value
    rw [whole] at normal filled ⊢
    rw [values, normal]
    exact split_of_spaced neutral_round front last closed ends filled

theorem values_of_text (value : String) :
    (∀ part ∈ values value, part ≠ "" ∧ Unbroken .round isBlank 0 part.toList) ∧
      (String.join (values value)).toList = unseparated .round isBlank 0 (canonical value).toList ∧
      values (String.intercalate " " (values value)) = values value :=
  ⟨fun part member => ⟨values_filled value part member, values_unbroken value part member⟩, join_values value,
    values_spaced value⟩

-- A closing bracket too many does not count, and behind an open one nothing is cut.
example : values " A) url(B  c\u2003d  (E f " = ["A)", "url(B  c\u2003d  (E f"] := by decide

end UtilityCss.Css
