import UtilityCss.Proofs.Resolve.Agreement
import UtilityCss.Resolve.Session

namespace UtilityCss
open Text

namespace Cache

variable {n : Nat}

-- A call without a key is answered by a silent miss, and no table is asked.
def lookupKey? (owner : Nat) (ctx : Context) (scale value : String) : Option CacheKey :=
  if trim value = "" then none
  else match ScaleName.ofText? scale with
    | none => none
    | some name => (Profile.of? name).map fun _ => .lookup (LookupKey.of owner ctx name (trim value))

theorem lookupKey_parts (owner : Nat) (ctx : Context) (scale value : String) (key : CacheKey)
    (keyed : lookupKey? owner ctx scale value = some key) :
    trim value ≠ "" ∧ ∃ name profile, ScaleName.ofText? scale = some name ∧
      Profile.of? name = some profile ∧ key = .lookup (LookupKey.of owner ctx name (trim value)) := by
  unfold lookupKey? at keyed
  split at keyed
  · cases keyed
  · rename_i written
    split at keyed
    · cases keyed
    · rename_i name found
      obtain ⟨profile, known, rfl⟩ := Option.map_eq_some_iff.mp keyed
      exact ⟨written, name, profile, found, known, rfl⟩

theorem lookupKey_ne_label (owner : Nat) (ctx : Context) (scale value label : String) :
    lookupKey? owner ctx scale value ≠ some (.label label) := by
  intro keyed
  obtain ⟨_, _, _, _, _, same⟩ := lookupKey_parts _ _ _ _ _ keyed
  cases same

theorem resolveNamed_unkeyed (cache : Cache) (owner : Nat) (ctx : Context) (scale value : String)
    (unkeyed : lookupKey? owner ctx scale value = none) :
    cache.resolveNamed owner ctx scale value = (UtilityCss.resolveNamed ctx scale value, cache) := by
  unfold lookupKey? at unkeyed
  unfold Cache.resolveNamed UtilityCss.resolveNamed
  cases found : ScaleName.ofText? scale with
  | none => rfl
  | some name =>
    by_cases blank : trim value = ""
    · simp [Cache.resolve, UtilityCss.resolve, blank]
    · have unknown : Profile.of? name = none := by simpa [blank, found] using unkeyed
      simp [Cache.resolve, UtilityCss.resolve, blank, unknown]

theorem resolveNamed_hit (cache counted : Cache) (owner : Nat) (ctx : Context) (scale value : String)
    (key : CacheKey) (verdict : Verdict) (keyed : lookupKey? owner ctx scale value = some key)
    (got : cache.get key = (some verdict, counted)) :
    cache.resolveNamed owner ctx scale value = (verdict, counted) := by
  obtain ⟨written, name, profile, found, known, rfl⟩ := lookupKey_parts _ _ _ _ _ keyed
  simp only [Cache.resolveNamed, Cache.resolve, found, written, if_false, known, got]

theorem resolveNamed_miss (cache counted : Cache) (owner : Nat) (ctx : Context) (scale value : String)
    (key : CacheKey) (keyed : lookupKey? owner ctx scale value = some key)
    (got : cache.get key = (none, counted)) :
    cache.resolveNamed owner ctx scale value = (UtilityCss.resolveNamed ctx scale value,
      counted.put key (UtilityCss.resolveNamed ctx scale value)) := by
  obtain ⟨written, name, profile, found, known, rfl⟩ := lookupKey_parts _ _ _ _ _ keyed
  simp only [Cache.resolveNamed, UtilityCss.resolveNamed, Cache.resolve, UtilityCss.resolve, found,
    written, if_false, known, got]

theorem verdict_of_key (owner other : Nat) (a b : Context) (scale value again text : String)
    (key : CacheKey) (left : lookupKey? owner a scale value = some key)
    (right : lookupKey? other b again text = some key) :
    UtilityCss.resolveNamed a scale value = UtilityCss.resolveNamed b again text := by
  obtain ⟨written, name, profile, found, known, keyIs⟩ := lookupKey_parts _ _ _ _ _ left
  obtain ⟨writtenToo, second, profileToo, foundToo, knownToo, keyIsToo⟩ := lookupKey_parts _ _ _ _ _ right
  rw [keyIs, CacheKey.lookup.injEq] at keyIsToo
  obtain ⟨sameName, sameText, agree⟩ := LookupKey.agreeOn _ _ _ _ _ _ _ _ keyIsToo
  subst sameName
  simp only [UtilityCss.resolveNamed, UtilityCss.resolve, found, foundToo, written, if_false, known,
    ← sameText, Profile.resolve_agree known agree]

theorem get_entries (cache : Cache) (key : CacheKey) : (cache.get key).2.entries = cache.entries := by
  unfold get
  split
  · rfl
  · cases Entries.find? key cache.entries <;> rfl

theorem get_found (cache : Cache) (key : CacheKey) (verdict : Verdict)
    (got : (cache.get key).1 = some verdict) : Entries.find? key cache.entries = some verdict := by
  unfold get at got
  split at got
  · cases got
  · cases found : Entries.find? key cache.entries with
    | none => simp [found] at got
    | some stored => simpa [found] using got

theorem find_put (cache : Cache) (key other : CacheKey) (stored verdict : Verdict)
    (found : Entries.find? other (cache.put key stored).entries = some verdict) :
    other = key ∧ verdict = stored ∨ Entries.find? other cache.entries = some verdict := by
  unfold put at found
  split at found
  · by_cases same : other = key
    · subst same
      rw [Entries.find?_put_self] at found
      exact .inl ⟨rfl, (Option.some.inj found).symm⟩
    · rw [Entries.find?_put_of_ne _ _ _ _ same] at found
      exact .inr found
  · exact .inr found

-- Every entry under the key of one of the calls is the verdict of that call.
def Sound (contexts : Fin n → Context) (calls : List (CacheStep n)) (cache : Cache) : Prop :=
  ∀ (owner : Fin n) scale value, .resolve owner scale value ∈ calls → ∀ key,
    lookupKey? owner (contexts owner) scale value = some key → ∀ verdict,
      Entries.find? key cache.entries = some verdict →
        verdict = UtilityCss.resolveNamed (contexts owner) scale value

-- A verdict put by hand is trusted as it stands. It must not stand under the key of a question that is asked.
def Apart (contexts : Fin n → Context) (calls : List (CacheStep n)) : Prop :=
  ∀ key verdict, .put key verdict ∈ calls →
    ∀ (owner : Fin n) scale value, .resolve owner scale value ∈ calls →
      lookupKey? owner (contexts owner) scale value ≠ some key

theorem new_sound (contexts : Fin n → Context) (calls : List (CacheStep n)) (enabled : Bool) :
    Sound contexts calls (new enabled) := by
  intro owner scale value _ key _ verdict found
  cases found

theorem sound_of_entries (contexts : Fin n → Context) (calls : List (CacheStep n)) (before after : Cache)
    (sound : Sound contexts calls before) (same : after.entries = before.entries) :
    Sound contexts calls after := by
  intro owner scale value called key keyed verdict found
  rw [same] at found
  exact sound owner scale value called key keyed verdict found

theorem resolveNamed_answer (contexts : Fin n → Context) (calls : List (CacheStep n)) (cache : Cache)
    (sound : Sound contexts calls cache) (owner : Fin n) (scale value : String)
    (called : .resolve owner scale value ∈ calls) :
    (cache.resolveNamed owner (contexts owner) scale value).1 =
      UtilityCss.resolveNamed (contexts owner) scale value := by
  cases keyed : lookupKey? owner (contexts owner) scale value with
  | none => rw [resolveNamed_unkeyed _ _ _ _ _ keyed]
  | some key =>
    cases got : cache.get key with
    | mk answer counted =>
      cases answer with
      | none => rw [resolveNamed_miss _ _ _ _ _ _ _ keyed got]
      | some verdict =>
        rw [resolveNamed_hit _ _ _ _ _ _ _ _ keyed got]
        have found := get_found cache key verdict (by rw [got])
        exact sound owner scale value called key keyed verdict found

theorem resolveNamed_keeps (P : Cache → Prop) (cache : Cache) (owner : Nat) (ctx : Context) (scale value : String)
    (held : P cache) (asked : ∀ key, P (cache.get key).2)
    (stored : ∀ key, lookupKey? owner ctx scale value = some key →
      P ((cache.get key).2.put key (UtilityCss.resolveNamed ctx scale value))) :
    P (cache.resolveNamed owner ctx scale value).2 := by
  cases keyed : lookupKey? owner ctx scale value with
  | none =>
    rw [resolveNamed_unkeyed _ _ _ _ _ keyed]
    exact held
  | some key =>
    have found := asked key
    have filled := stored key keyed
    cases got : cache.get key with
    | mk answer counted =>
      rw [got] at found filled
      cases answer with
      | some verdict =>
        rw [resolveNamed_hit _ _ _ _ _ _ _ _ keyed got]
        exact found
      | none =>
        rw [resolveNamed_miss _ _ _ _ _ _ _ keyed got]
        exact filled

theorem resolveNamed_sound (contexts : Fin n → Context) (calls : List (CacheStep n)) (cache : Cache)
    (sound : Sound contexts calls cache) (owner : Fin n) (scale value : String) :
    Sound contexts calls (cache.resolveNamed owner (contexts owner) scale value).2 := by
  have counted : ∀ key, Sound contexts calls (cache.get key).2 :=
    fun key => sound_of_entries _ _ _ _ sound (get_entries cache key)
  refine resolveNamed_keeps (Sound contexts calls) cache owner _ scale value sound counted ?_
  intro key keyed second again text called other keyedToo verdict found
  rcases find_put _ _ _ _ _ found with ⟨rfl, rfl⟩ | old
  · exact verdict_of_key _ _ _ _ _ _ _ _ _ keyed keyedToo
  · exact counted key second again text called other keyedToo verdict old

theorem step_sound (contexts : Fin n → Context) (calls : List (CacheStep n)) (cache : Cache)
    (apart : Apart contexts calls) (sound : Sound contexts calls cache) (action : CacheStep n)
    (called : action ∈ calls) : Sound contexts calls (cache.step contexts action).2 := by
  cases action with
  | resolve owner scale value => exact resolveNamed_sound contexts calls cache sound owner scale value
  | get key => exact sound_of_entries _ _ _ _ sound (get_entries cache key)
  | put key stored =>
    intro owner scale value asked other keyed verdict found
    rcases find_put _ _ _ _ _ found with ⟨rfl, _⟩ | old
    · exact absurd keyed (apart other stored called owner scale value asked)
    · exact sound owner scale value asked other keyed verdict old
  | clear =>
    intro owner scale value _ key _ verdict found
    cases found

theorem run_answer (contexts : Fin n → Context) (calls steps : List (CacheStep n)) (cache : Cache)
    (apart : Apart contexts calls) (sound : Sound contexts calls cache)
    (called : ∀ action ∈ steps, action ∈ calls) (i : Nat) (owner : Fin n) (scale value : String)
    (asked : steps[i]? = some (.resolve owner scale value)) :
    (cache.run contexts steps)[i]?.map Prod.fst =
      some (some (UtilityCss.resolveNamed (contexts owner) scale value)) := by
  induction steps generalizing cache i with
  | nil => cases asked
  | cons first rest ih =>
    have here := called first List.mem_cons_self
    cases i with
    | zero =>
      cases Option.some.inj asked
      have answer := resolveNamed_answer contexts calls cache sound owner scale value here
      simp only [run, List.getElem?_cons_zero, Option.map_some, step, answer]
    | succ i =>
      have next := step_sound contexts calls cache apart sound first here
      have later : ∀ action ∈ rest, action ∈ calls :=
        fun action member => called action (List.mem_cons_of_mem _ member)
      simpa only [run, List.getElem?_cons_succ] using ih _ next later i asked

-- Hits, entries put by hand, clearings and contexts that differ in anything leave every call with the
-- verdict that it has without a table.
theorem run_answers_as_uncached (contexts : Fin n → Context) (enabled : Bool) (steps : List (CacheStep n))
    (apart : Apart contexts steps) (i : Nat) (owner : Fin n) (scale value : String)
    (asked : steps[i]? = some (.resolve owner scale value)) :
    ((new enabled).run contexts steps)[i]?.map Prod.fst =
      some (some (UtilityCss.resolveNamed (contexts owner) scale value)) :=
  run_answer contexts steps steps (new enabled) apart (new_sound contexts steps enabled)
    (fun _ member => member) i owner scale value asked

def zeroThreshold (negative : Bool) : Context where
  current := some { Layer.empty with spacing := ⟨[("4", "1rem")]⟩ }
  legacy := none
  version := .current
  strict := false
  approximate := true
  thresholds := ⟨.finite negative 0, 1, 2⟩
  screens := []
  cached := true

theorem run_answers_under_both_zeros :
    let contexts : Fin 2 → Context := fun i => zeroThreshold (i == 1)
    let steps : List (CacheStep 2) := [.resolve 0 "spacing" "1rem", .put "mine" (.ofToken "9"),
      .get "mine", .resolve 1 "spacing" " 1rem ", .clear, .resolve 1 "spacing" "15px"]
    Apart contexts steps ∧ steps[3]? = some (.resolve 1 "spacing" " 1rem ") ∧
      ((new true).run contexts steps)[3]?.map Prod.fst =
        some (some (.exact "4" (some .current) false none)) := by
  intro contexts steps
  have apart : Apart contexts steps := by
    intro key verdict member owner scale value _
    simp only [steps, List.mem_cons, reduceCtorEq, CacheStep.put.injEq, List.not_mem_nil, or_false,
      false_or] at member
    rw [member.1]
    exact lookupKey_ne_label _ _ _ _ _
  refine ⟨apart, rfl, ?_⟩
  rw [run_answers_as_uncached contexts true steps apart 3 1 "spacing" " 1rem " rfl]
  decide +kernel

end Cache
end UtilityCss
