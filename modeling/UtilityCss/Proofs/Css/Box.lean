import UtilityCss.Css.Box
import UtilityCss.Proofs.Css.Values
import UtilityCss.Proofs.Text.Words

namespace UtilityCss.Css
open Text

theorem values_words (value : String) : words (canonical value) = (values value).flatMap words :=
  words_of_pieces .round (canonical value)

namespace Sides

theorem ofValues?_append (front rest : List String) (four : front.length = 4) :
    ofValues? (front ++ rest) = ofValues? front := by
  match front, four with
  | [_, _, _, _], _ => rfl

theorem ofValues?_eq_none_iff (parts : List String) : ofValues? parts = none ↔ parts = [] := by
  match parts with
  | [] => exact ⟨fun _ => rfl, fun _ => rfl⟩
  | [_] | [_, _] | [_, _, _] | _ :: _ :: _ :: _ :: _ => exact ⟨nofun, nofun⟩

theorem mem_toList_iff (parts : List String) (sides : Sides) (made : ofValues? parts = some sides) (part : String) :
    part ∈ sides.toList ↔ part ∈ parts.take 4 := by
  match parts with
  | [] => cases made
  | [a] =>
    cases made
    simp [toList]
  | [a, b] =>
    cases made
    grind [toList]
  | [a, b, c] =>
    cases made
    grind [toList]
  | a :: b :: c :: d :: rest =>
    cases made
    simp [toList]

theorem read?_of_values (value : String) : read? value = ofValues? ((values value).flatMap words) := by
  rw [read?, values_words]

theorem read?_unspaced (value : String) (sides : Sides) (made : read? value = some sides) :
    ∀ side ∈ sides.toList, Unspaced side := by
  intro side member
  rw [mem_toList_iff _ sides made] at member
  exact (isWord_of_mem_words _ side (List.mem_of_mem_take member)).unspaced

theorem read?_of_unspaced (value : String) (whole : ∀ part ∈ (values value).take 4, Unspaced part) :
    read? value = ofValues? (values value) := by
  have kept : ((values value).take 4).flatMap words = (values value).take 4 := by
    apply flatMap_words
    intro part member
    exact ⟨values_filled value part (List.mem_of_mem_take member), whole part member⟩
  have apart : (values value).flatMap words = (values value).take 4 ++ ((values value).drop 4).flatMap words := by
    conv_lhs => rw [← List.take_append_drop 4 (values value), List.flatMap_append, kept]
  rw [read?_of_values, apart]
  rcases Nat.lt_or_ge (values value).length 4 with few | many
  · rw [List.drop_of_length_le (by omega), List.take_of_length_le (by omega), List.flatMap_nil, List.append_nil]
  · have four : ((values value).take 4).length = 4 := List.length_take_of_le many
    rw [ofValues?_append _ _ four, ← ofValues?_append _ ((values value).drop 4) four, List.take_append_drop]

theorem shorthand_of_values (value : String) : read? value = ofValues? ((values value).flatMap words) ∧
    (read? value = ofValues? (values value) ↔ ∀ part ∈ (values value).take 4, Unspaced part) := by
  refine ⟨read?_of_values value, ?_, read?_of_unspaced value⟩
  intro same part member
  cases made : ofValues? (values value) with
  | none =>
    rw [(ofValues?_eq_none_iff _).mp made] at member
    cases member
  | some sides =>
    rw [made] at same
    exact read?_unspaced value sides same part ((mem_toList_iff _ sides made part).mpr member)

theorem shorthand_of_call : read? "calc(1px + 2px)" = some ⟨"calc(1px", "+", "2px)", "+"⟩ ∧
    ofValues? (values "calc(1px + 2px)") =
      some ⟨"calc(1px + 2px)", "calc(1px + 2px)", "calc(1px + 2px)", "calc(1px + 2px)"⟩ ∧
    read? "calc(1px + 2px)" ≠ ofValues? (values "calc(1px + 2px)") ∧
    read? "1px 2px 3px 4px calc(1px + 2px)" = ofValues? (values "1px 2px 3px 4px calc(1px + 2px)") := by
  decide +kernel

end Sides
end UtilityCss.Css
