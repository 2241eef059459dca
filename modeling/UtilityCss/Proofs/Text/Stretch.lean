import Mathlib.Data.List.SplitBy

namespace UtilityCss.Text

-- A run of characters of the class that nothing of the class stands beside.
def Stretch (holds : Char → Bool) (run cs : List Char) : Prop :=
  ∃ before after, cs = before ++ run ++ after ∧ run ≠ [] ∧ (∀ c ∈ run, holds c = true) ∧
    (∀ c, before.getLast? = some c → holds c = false) ∧ ∀ c, after.head? = some c → holds c = false

section
variable {holds : Char → Bool}

namespace Stretch

variable {run cs : List Char}

theorem filled (stretch : Stretch holds run cs) : run ≠ [] := by
  obtain ⟨before, after, _, filled, _⟩ := stretch
  exact filled

theorem inside (stretch : Stretch holds run cs) : ∀ c ∈ run, holds c = true := by
  obtain ⟨before, after, _, _, inside, _⟩ := stretch
  exact inside

theorem outside (stretch : Stretch (fun c => !holds c) run cs) : ∀ c ∈ run, holds c = false := by
  intro c member
  simpa using stretch.inside c member

end Stretch

def alike (holds : Char → Bool) (a b : Char) : Bool := holds a == holds b

theorem chain_alike (c : Char) (rest : List Char)
    (chain : (c :: rest).IsChain fun a b => alike holds a b = true) : ∀ d ∈ c :: rest, holds d = holds c := by
  induction rest generalizing c with
  | nil => simp
  | cons second rest ih =>
    obtain ⟨same, later⟩ := List.isChain_cons_cons.mp chain
    have equal : holds c = holds second := by simpa [alike] using same
    intro d member
    rcases List.mem_cons.mp member with rfl | other
    · rfl
    · rw [ih second later d other, equal]

theorem chain_of_alike (value : Bool) (run : List Char) (same : ∀ c ∈ run, holds c = value) :
    run.IsChain fun a b => alike holds a b = true := by
  induction run with
  | nil => exact List.isChain_nil
  | cons c rest ih =>
    rw [List.isChain_cons]
    refine ⟨?_, ih fun d member => same d (List.mem_cons_of_mem _ member)⟩
    intro d next
    have first := same c List.mem_cons_self
    have second := same d (List.mem_cons_of_mem _ (List.mem_of_mem_head? next))
    simp [alike, first, second]

theorem run_value (cs run : List Char) (member : run ∈ cs.splitBy (alike holds)) :
    ∃ value, ∀ c ∈ run, holds c = value := by
  have chain := List.isChain_of_mem_splitBy member
  cases run with
  | nil => exact ⟨true, by simp⟩
  | cons c rest => exact ⟨holds c, chain_alike c rest chain⟩

theorem run_neighbours (cs run : List Char) (left right : List (List Char))
    (split : cs.splitBy (alike holds) = left ++ run :: right) (value : Bool)
    (same : ∀ c ∈ run, holds c = value) :
    (∀ c, left.flatten.getLast? = some c → holds c ≠ value) ∧
      ∀ c, right.flatten.head? = some c → holds c ≠ value := by
  have filled : [] ∉ left ++ run :: right := by
    rw [← split]
    exact List.nil_notMem_splitBy _ _
  have borders := List.isChain_getLast_head_splitBy (alike holds) cs
  rw [split] at borders
  obtain ⟨_, tail, joint⟩ := List.isChain_append.mp borders
  constructor
  · intro c last equal
    rcases List.eq_nil_or_concat left with rfl | ⟨front, piece, rfl⟩
    · cases last
    · obtain ⟨pieceFilled, runFilled, apart⟩ := joint piece (by simp) run (by simp)
      have lastOfPiece : piece.getLast pieceFilled = c := by
        rw [List.concat_eq_append, List.flatten_append, List.flatten_singleton,
          List.getLast?_append_of_ne_nil _ pieceFilled, List.getLast?_eq_some_getLast pieceFilled] at last
        exact Option.some.inj last
      rw [lastOfPiece] at apart
      have headValue := same (run.head runFilled) (List.head_mem runFilled)
      simp [alike, equal, headValue] at apart
  · intro c first equal
    cases right with
    | nil => cases first
    | cons piece others =>
      obtain ⟨runFilled, pieceFilled, apart⟩ := (List.isChain_cons_cons.mp tail).1
      have headOfPiece : piece.head pieceFilled = c := by
        rw [List.flatten_cons, List.head?_append_of_ne_nil _ pieceFilled,
          List.head?_eq_some_head pieceFilled] at first
        exact Option.some.inj first
      rw [headOfPiece] at apart
      have lastValue := same (run.getLast runFilled) (List.getLast_mem runFilled)
      simp [alike, equal, lastValue] at apart

theorem stretch_of_run (cs run : List Char) (member : run ∈ cs.splitBy (alike holds)) :
    Stretch holds run cs ∨ Stretch (fun c => !holds c) run cs := by
  obtain ⟨value, same⟩ := run_value cs run member
  obtain ⟨left, right, split⟩ := List.append_of_mem member
  obtain ⟨beforeRun, afterRun⟩ := run_neighbours cs run left right split value same
  have whole : cs = left.flatten ++ run ++ right.flatten := by
    have joined := List.flatten_splitBy (alike holds) cs
    rw [split] at joined
    simpa using joined.symm
  have filled : run ≠ [] := List.ne_nil_of_mem_splitBy member
  cases value with
  | true =>
    refine .inl ⟨_, _, whole, filled, same, ?_, ?_⟩
    · exact fun c last => by simpa using beforeRun c last
    · exact fun c first => by simpa using afterRun c first
  | false =>
    refine .inr ⟨_, _, whole, filled, ?_, ?_, ?_⟩
    · exact fun c inside => by simpa using same c inside
    · exact fun c last => by simpa using beforeRun c last
    · exact fun c first => by simpa using afterRun c first

theorem run_of_stretch (cs run : List Char) (stretch : Stretch holds run cs) :
    run ∈ cs.splitBy (alike holds) := by
  obtain ⟨before, after, rfl, filled, same, beforeRun, afterRun⟩ := stretch
  obtain ⟨c, rest, rfl⟩ := List.exists_cons_of_ne_nil filled
  have inner : (c :: rest).splitBy (alike holds) = [c :: rest] :=
    List.splitBy_of_isChain filled (chain_of_alike true _ same)
  have tail : (c :: rest ++ after).splitBy (alike holds) = [c :: rest] ++ after.splitBy (alike holds) := by
    rw [List.splitBy_append, inner]
    intro d last e first
    have inside := same d (List.mem_of_getLast? last)
    have outside := afterRun e first
    simp [alike, inside, outside]
  have front : (before ++ (c :: rest ++ after)).splitBy (alike holds) =
      before.splitBy (alike holds) ++ (c :: rest ++ after).splitBy (alike holds) := by
    apply List.splitBy_append
    intro d last e first
    have outside := beforeRun d last
    have inside := same c List.mem_cons_self
    cases Option.some.inj first
    simp [alike, inside, outside]
  rw [List.append_assoc, front, tail]
  simp

theorem splitBy_pair (front back : List Char) (begun : front ≠ []) (outside : ∀ c ∈ front, holds c = false)
    (filled : back ≠ []) (inside : ∀ c ∈ back, holds c = true) :
    (front ++ back).splitBy (alike holds) = [front, back] := by
  rw [List.splitBy_append, List.splitBy_of_isChain begun (chain_of_alike false front outside),
    List.splitBy_of_isChain filled (chain_of_alike true back inside), List.singleton_append]
  intro c last d first
  have before := outside c (List.mem_of_getLast? last)
  have after := inside d (List.mem_of_mem_head? first)
  simp [alike, before, after]

theorem alike_not (holds : Char → Bool) : alike (fun c => !holds c) = alike holds := by
  funext a b
  cases left : holds a <;> cases right : holds b <;> simp [alike, left, right]

end
end UtilityCss.Text
