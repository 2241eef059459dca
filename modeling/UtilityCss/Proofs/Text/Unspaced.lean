import Mathlib.Data.List.Basic
import UtilityCss.Class.Arbitrary
import UtilityCss.Proofs.Text.Pieces
import UtilityCss.Proofs.Text.Trimmed

namespace UtilityCss
open Text

namespace Text

def Unspaced (s : String) : Prop := ∀ c ∈ s.toList, isBlank c = false

instance (s : String) : Decidable (Unspaced s) :=
  decidable_of_iff (s.toList.all fun c => !isBlank c) (by simp [Unspaced])

theorem Unspaced.of_subset {s t : String} (within : s.toList ⊆ t.toList) (unspaced : Unspaced t) : Unspaced s :=
  fun c member => unspaced c (within member)

theorem unspaced_append (s t : String) : Unspaced (s ++ t) ↔ Unspaced s ∧ Unspaced t := by
  unfold Unspaced
  rw [String.toList_append, List.forall_mem_append]

theorem Unspaced.trim {s : String} (unspaced : Unspaced s) : Unspaced (trim s) :=
  unspaced.of_subset (trim_sublist s).subset

structure IsWord (s : String) : Prop where
  filled : s ≠ ""
  unspaced : Unspaced s

theorem depthAfter_none (depth : Nat) (cs : List Char) : Brackets.none.depthAfter depth cs = depth := by
  induction cs with
  | nil => rfl
  | cons c rest ih => exact ih

theorem neutral_blank : Neutral .none isBlank := fun _ _ _ => rfl

theorem Unspaced.closed {s : String} (unspaced : Unspaced s) : Closed .none isBlank 0 s.toList := by
  refine ⟨?_, depthAfter_none 0 s.toList⟩
  rw [unbroken_iff neutral_blank]
  intro front c back shape blank
  have kept := unspaced c (by rw [shape]; exact List.mem_append_right front List.mem_cons_self)
  rw [kept] at blank
  cases blank

theorem toList_spaced (front : List String) (last : String) :
    (String.intercalate " " (front ++ [last])).toList = ended ' ' (front.map String.toList) ++ last.toList := by
  induction front with
  | nil => simp [ended]
  | cons first rest ih =>
    rw [List.cons_append, String.intercalate_cons_of_ne_nil (List.append_ne_nil_of_right_ne_nil _ (by simp)),
      String.toList_append, String.toList_append, ih]
    simp [ended]

theorem spaced_begins (first : String) (rest : List String) :
    ∃ tail, (String.intercalate " " (first :: rest)).toList = first.toList ++ tail := by
  cases rest with
  | nil => exact ⟨[], by rw [String.intercalate_singleton, List.append_nil]⟩
  | cons second more =>
    rw [String.intercalate_cons_of_ne_nil (List.cons_ne_nil second more), String.toList_append, String.toList_append,
      List.append_assoc]
    exact ⟨_, rfl⟩

theorem split_of_spaced {brackets : Brackets} (neutral : Neutral brackets isBlank) (front : List String)
    (last : String) (closed : ∀ name ∈ front, Closed brackets isBlank 0 name.toList)
    (ends : Unbroken brackets isBlank 0 last.toList) (filled : ∀ name ∈ front ++ [last], name ≠ "") :
    ((splitOutside brackets isBlank 0 (String.intercalate " " (front ++ [last])).toList).filter (· ≠ [])).map
      String.ofList = front ++ [last] := by
  have split := split_ended neutral ' ' rfl (front.map String.toList) last.toList (List.forall_mem_map.mpr closed) ends
  have whole : front.map String.toList ++ [last.toList] = (front ++ [last]).map String.toList := by simp
  have kept : ∀ piece ∈ (front ++ [last]).map String.toList, piece ≠ [] := by
    rw [List.forall_mem_map]
    exact fun name member => mt String.toList_eq_nil_iff.mp (filled name member)
  rw [toList_spaced, split, whole, List.filter_eq_self.mpr (by simpa using kept), List.map_map]
  simp [Function.comp_def]

theorem words_of_spaced (names : List String) (each : ∀ name ∈ names, IsWord name) :
    words (String.intercalate " " names) = names := by
  rcases List.eq_nil_or_concat' names with rfl | ⟨front, last, rfl⟩
  · rfl
  · refine split_of_spaced neutral_blank front last ?_ ?_ fun name member => (each name member).filled
    · exact fun name member => (each name (List.mem_append_left _ member)).unspaced.closed
    · exact (each last (by simp)).unspaced.closed.1

theorem mem_spaced (names : List String) (c : Char) (member : c ∈ (String.intercalate " " names).toList) :
    c = ' ' ∨ ∃ name ∈ names, c ∈ name.toList := by
  rcases List.eq_nil_or_concat' names with rfl | ⟨front, last, rfl⟩
  · cases member
  · rw [toList_spaced, List.mem_append] at member
    rcases member with before | after
    · obtain ⟨piece, listed, inside⟩ := List.mem_flatMap.mp before
      obtain ⟨name, known, rfl⟩ := List.mem_map.mp listed
      rcases List.mem_append.mp inside with own | space
      · exact .inr ⟨name, List.mem_append_left _ known, own⟩
      · exact .inl (List.mem_singleton.mp space)
    · exact .inr ⟨last, List.mem_append_right _ List.mem_cons_self, after⟩

theorem mem_spaced_of_mem (names : List String) (name : String) (known : name ∈ names) (c : Char)
    (member : c ∈ name.toList) : c ∈ (String.intercalate " " names).toList := by
  rcases List.eq_nil_or_concat' names with rfl | ⟨front, last, rfl⟩
  · cases known
  · rw [toList_spaced]
    rcases List.mem_append.mp known with before | final
    · have listed := List.mem_map_of_mem (f := String.toList) before
      exact List.mem_append_left _ (List.mem_flatMap.mpr ⟨_, listed, List.mem_append_left _ member⟩)
    · rw [List.mem_singleton.mp final] at member
      exact List.mem_append_right _ member

theorem spaced_tight (names : List String) (filled : ∀ name ∈ names, name ≠ "")
    (tight : Tight isBlank (String.join names).toList) : Tight isBlank (String.intercalate " " names).toList := by
  rw [String.toList_join] at tight
  have written : ∀ name ∈ names, name.toList ≠ [] := fun name member => mt String.toList_eq_nil_iff.mp (filled name member)
  constructor
  · cases names with
    | nil => exact nofun
    | cons first rest =>
      obtain ⟨tail, whole⟩ := spaced_begins first rest
      have here := written first List.mem_cons_self
      intro c begins
      rw [whole, List.head?_append_of_ne_nil _ here] at begins
      apply tight.1
      rwa [List.flatMap_cons, List.head?_append_of_ne_nil _ here]
  · rcases List.eq_nil_or_concat' names with rfl | ⟨front, last, rfl⟩
    · exact nofun
    · have here := written last (by simp)
      intro c ends
      rw [toList_spaced, List.getLast?_append_of_ne_nil _ here] at ends
      apply tight.2
      rwa [List.flatMap_append, List.flatMap_singleton, List.getLast?_append_of_ne_nil _ here]

end Text

theorem underscored_unspaced (afterBlank : Bool) (cs : List Char) :
    ∀ c ∈ underscored afterBlank cs, isBlank c = false := by
  induction cs generalizing afterBlank with
  | nil => nofun
  | cons c rest ih =>
    unfold underscored
    split
    · split
      · exact ih true
      · exact List.forall_mem_cons.mpr ⟨by decide, ih true⟩
    · rename_i kept
      exact List.forall_mem_cons.mpr ⟨by simpa using kept, ih false⟩

theorem arbitraryClass_unspaced (stem value : String) (named : Unspaced stem) :
    Unspaced (arbitraryClass stem value) := by
  unfold arbitraryClass
  dsimp only
  split
  · exact nofun
  · simp only [unspaced_append]
    refine ⟨⟨⟨named.trim, by decide⟩, ?_⟩, by decide⟩
    intro c member
    rw [String.toList_ofList] at member
    exact underscored_unspaced false _ c member

end UtilityCss
