import Mathlib.Data.List.Basic

namespace UtilityCss

variable {α β γ ε : Type}

theorem bind_eq_ok_iff (step : Except ε α) (next : α → Except ε β) (result : β) :
    (step >>= next) = .ok result ↔ ∃ value, step = .ok value ∧ next value = .ok result := by
  constructor
  · intro returns
    cases step with
    | error fault => cases returns
    | ok value => exact ⟨value, rfl, returns⟩
  · rintro ⟨value, rfl, returns⟩
    exact returns

theorem map_eq_ok_iff (view : α → β) (step : Except ε α) (seen : β) :
    step.map view = .ok seen ↔ ∃ value, step = .ok value ∧ view value = seen := by
  cases step with
  | error fault => exact ⟨nofun, nofun⟩
  | ok value =>
    constructor
    · intro returns
      exact ⟨value, rfl, Except.ok.inj returns⟩
    · rintro ⟨_, same, rfl⟩
      cases same
      rfl

theorem mapM_of_each (f : α → Except ε β) (g : α → β) (xs : List α) (each : ∀ x ∈ xs, f x = .ok (g x)) :
    xs.mapM f = .ok (xs.map g) := by
  induction xs with
  | nil => rfl
  | cons x rest ih =>
    have first := each x List.mem_cons_self
    have others := ih fun y member => each y (List.mem_cons_of_mem _ member)
    rw [List.mapM_cons, first, others]
    rfl

theorem mapM_returns (f : α → Except ε β) (xs : List α) (each : ∀ x ∈ xs, ∃ y, f x = .ok y) :
    ∃ ys, xs.mapM f = .ok ys := by
  induction xs with
  | nil => exact ⟨[], rfl⟩
  | cons x rest ih =>
    obtain ⟨y, first⟩ := each x List.mem_cons_self
    obtain ⟨ys, others⟩ := ih fun z member => each z (List.mem_cons_of_mem _ member)
    refine ⟨y :: ys, ?_⟩
    rw [List.mapM_cons, first, others]
    rfl

theorem mapM_fails (f : α → Except ε β) (xs : List α) (x : α) (fault : ε) (member : x ∈ xs)
    (fails : f x = .error fault) : ∃ y ∈ xs, ∃ found, f y = .error found ∧ xs.mapM f = .error found := by
  induction xs with
  | nil => cases member
  | cons first rest ih =>
    cases here : f first with
    | error found =>
      refine ⟨first, List.mem_cons_self, found, here, ?_⟩
      rw [List.mapM_cons, here]
      rfl
    | ok value =>
      have later : x ∈ rest := by
        rcases List.mem_cons.mp member with rfl | later
        · rw [here] at fails
          cases fails
        · exact later
      obtain ⟨y, known, found, broken, whole⟩ := ih later
      refine ⟨y, List.mem_cons_of_mem _ known, found, broken, ?_⟩
      rw [List.mapM_cons, here, whole]
      rfl

theorem mapM_view (f : α → Except ε β) (view : β → γ) (known : α → γ)
    (each : ∀ x y, f x = .ok y → view y = known x) (xs : List α) (ys : List β)
    (returns : xs.mapM f = .ok ys) : ys.map view = xs.map known := by
  induction xs generalizing ys with
  | nil =>
    cases returns
    rfl
  | cons x rest ih =>
    rw [List.mapM_cons, bind_eq_ok_iff] at returns
    obtain ⟨y, first, returns⟩ := returns
    obtain ⟨others, later, returns⟩ := (bind_eq_ok_iff _ _ _).mp returns
    cases returns
    rw [List.map_cons, List.map_cons, each x y first, ih others later]

theorem foldlM_returns (f : β → α → Except ε β) (xs : List α) (start : β)
    (each : ∀ x ∈ xs, ∀ before, ∃ after, f before x = .ok after) : ∃ last, xs.foldlM f start = .ok last := by
  induction xs generalizing start with
  | nil => exact ⟨start, rfl⟩
  | cons x rest ih =>
    obtain ⟨next, first⟩ := each x List.mem_cons_self start
    obtain ⟨last, others⟩ := ih next fun y member => each y (List.mem_cons_of_mem _ member)
    refine ⟨last, ?_⟩
    rw [List.foldlM_cons, first]
    exact others

theorem foldlM_of_each (f : β → α → Except ε β) (g : β → α → β) (xs : List α) (start : β)
    (each : ∀ x ∈ xs, ∀ before, f before x = .ok (g before x)) : xs.foldlM f start = .ok (xs.foldl g start) := by
  induction xs generalizing start with
  | nil => rfl
  | cons x rest ih =>
    rw [List.foldlM_cons, each x List.mem_cons_self start]
    exact ih (g start x) fun y member => each y (List.mem_cons_of_mem _ member)

theorem foldlM_fails (f : β → α → Except ε β) (fault : ε) (xs : List α) (x : α) (start : β) (member : x ∈ xs)
    (fails : ∀ before, f before x = .error fault) (only : ∀ before y found, f before y = .error found → found = fault) :
    xs.foldlM f start = .error fault := by
  induction xs generalizing start with
  | nil => cases member
  | cons first rest ih =>
    rw [List.foldlM_cons]
    cases here : f start first with
    | error found =>
      rw [only start first found here]
      rfl
    | ok next =>
      rcases List.mem_cons.mp member with rfl | later
      · rw [fails start] at here
        cases here
      · exact ih next later

theorem foldlM_keeps (f : β → α → Except ε β) (Inv : List α → β → Prop)
    (step : ∀ done x before after, Inv done before → f before x = .ok after → Inv (done ++ [x]) after)
    (done xs : List α) (start last : β) (holds : Inv done start) (returns : xs.foldlM f start = .ok last) :
    Inv (done ++ xs) last := by
  induction xs generalizing done start with
  | nil =>
    cases returns
    rwa [List.append_nil]
  | cons x rest ih =>
    rw [List.foldlM_cons, bind_eq_ok_iff] at returns
    obtain ⟨next, first, returns⟩ := returns
    rw [List.append_cons]
    exact ih (done ++ [x]) next (step done x start next holds first) returns

theorem foldlM_alongside (f : β → α → Except ε β) (g : γ → α → Except ε γ) (Alike : β → γ → Prop)
    (step : ∀ x b c after other, Alike b c → f b x = .ok after → g c x = .ok other → Alike after other)
    (xs : List α) (start last : β) (begun ended : γ) (alike : Alike start begun)
    (one : xs.foldlM f start = .ok last) (two : xs.foldlM g begun = .ok ended) : Alike last ended := by
  induction xs generalizing start begun with
  | nil =>
    cases one
    cases two
    exact alike
  | cons x rest ih =>
    rw [List.foldlM_cons, bind_eq_ok_iff] at one two
    obtain ⟨next, first, one⟩ := one
    obtain ⟨other, second, two⟩ := two
    exact ih next other (step x start begun next other alike first second) one two

end UtilityCss
