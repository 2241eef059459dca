import Mathlib.Data.List.DropRight
import UtilityCss.Proofs.Entries
import UtilityCss.Proofs.Resolve.Table

namespace UtilityCss
open Text

variable {n : Nat}

namespace CacheStep

def clears : CacheStep n → Bool
  | .clear => true
  | _ => false

def isLookup : CacheStep n → Bool
  | .resolve _ scale value =>
    trim value != "" && ["spacing", "font_size", "line_height", "radius", "colors"].contains scale
  | .get _ => true
  | _ => false

def lookedUp? (contexts : Fin n → Context) : CacheStep n → Option CacheKey
  | .resolve owner scale value => Cache.lookupKey? owner (contexts owner) scale value
  | .get key => some key
  | _ => none

-- A call to resolve leaves its key stored: on a miss it stores it, and on a hit it found it stored.
def stored? (contexts : Fin n → Context) : CacheStep n → Option CacheKey
  | .resolve owner scale value => Cache.lookupKey? owner (contexts owner) scale value
  | .put key _ => some key
  | _ => none

end CacheStep

namespace Cache

variable {contexts : Fin n → Context} {cache : Cache} {earlier : List (CacheStep n)} {action : CacheStep n}
  {key : CacheKey}

def after (contexts : Fin n → Context) (cache : Cache) (steps : List (CacheStep n)) : Cache :=
  steps.foldl (fun cache action => (cache.step contexts action).2) cache

-- Clearing empties the table and sets the counters back, so an account begins after the last one.
def sinceClear (steps : List (CacheStep n)) : List (CacheStep n) := steps.rtakeWhile fun action => !action.clears

def storedKeys (contexts : Fin n → Context) (steps : List (CacheStep n)) : List CacheKey :=
  (sinceClear steps).filterMap (·.stored? contexts)

theorem after_concat (contexts : Fin n → Context) (cache : Cache) (earlier : List (CacheStep n)) (action : CacheStep n) :
    cache.after contexts (earlier ++ [action]) = ((cache.after contexts earlier).step contexts action).2 := by
  rw [after, List.foldl_concat, after]

theorem run_getElem? (contexts : Fin n → Context) (cache : Cache) (steps : List (CacheStep n)) (i : Nat) :
    (cache.run contexts steps)[i]? =
      steps[i]?.map fun action => (cache.after contexts (steps.take i)).step contexts action := by
  induction steps generalizing cache i with
  | nil => rfl
  | cons first rest ih =>
    cases i with
    | zero => rfl
    | succ i => simpa only [run, after, List.getElem?_cons_succ, List.take_succ_cons, List.foldl_cons] using ih _ i

theorem sinceClear_concat (earlier : List (CacheStep n)) (action : CacheStep n) :
    sinceClear (earlier ++ [action]) = if action.clears then [] else sinceClear earlier ++ [action] := by
  rw [sinceClear, List.rtakeWhile_concat]
  cases action.clears <;> rfl

theorem storedKeys_concat (going : action.clears = false) :
    storedKeys contexts (earlier ++ [action]) =
      storedKeys contexts earlier ++ (action.stored? contexts).toList := by
  rw [storedKeys, sinceClear_concat, going, if_neg Bool.false_ne_true, List.filterMap_append]
  cases stored : action.stored? contexts <;> simp [storedKeys, stored]

theorem profile_known_iff (scale : String) : ((ScaleName.ofText? scale).bind Profile.of?).isSome ↔
    scale ∈ ["spacing", "font_size", "line_height", "radius", "colors"] := by
  constructor
  · intro known
    cases named : ScaleName.ofText? scale with
    | none => simp [named] at known
    | some name =>
      obtain rfl : name.text = scale := by simpa using List.find?_some named
      cases name <;> simp [named, Profile.of?] at known ⊢ <;> decide
  · intro listed
    simp only [List.mem_cons, List.not_mem_nil, or_false] at listed
    rcases listed with rfl | rfl | rfl | rfl | rfl <;> decide

theorem lookedUp_isSome (contexts : Fin n → Context) (action : CacheStep n) :
    (action.lookedUp? contexts).isSome = action.isLookup := by
  cases action with
  | resolve owner scale value =>
    rw [Bool.eq_iff_iff, CacheStep.isLookup, Bool.and_eq_true, bne_iff_ne, List.contains_iff_mem, ← profile_known_iff]
    rw [CacheStep.lookedUp?, lookupKey?]
    by_cases blank : trim value = ""
    · simp [blank]
    · cases ScaleName.ofText? scale <;> simp [blank]
  | get key => rfl
  | put key verdict => rfl
  | clear => rfl

theorem get_kept (on : cache.enabled = true) (listed : key ∈ Entries.keys cache.entries) :
    ∃ verdict, cache.get key = (some verdict, { cache with hits := cache.hits + 1 }) := by
  obtain ⟨verdict, found⟩ := Option.isSome_iff_exists.mp ((Entries.find?_isSome_iff key cache.entries).mpr listed)
  exact ⟨verdict, by simp [get, on, found]⟩

theorem get_fresh (on : cache.enabled = true) (fresh : key ∉ Entries.keys cache.entries) :
    cache.get key = (none, { cache with misses := cache.misses + 1 }) := by
  rw [← Entries.find?_isSome_iff, Option.not_isSome_iff_eq_none] at fresh
  simp [get, on, fresh]

theorem step_hit (on : cache.enabled = true) (looked : action.lookedUp? contexts = some key)
    (listed : key ∈ Entries.keys cache.entries) :
    ∃ verdict, cache.step contexts action = (some verdict, { cache with hits := cache.hits + 1 }) := by
  obtain ⟨verdict, got⟩ := get_kept on listed
  cases action with
  | resolve owner scale value => exact ⟨verdict, by rw [step, resolveNamed_hit _ _ _ _ _ _ _ _ looked got]⟩
  | get asked =>
    cases looked
    exact ⟨verdict, got⟩
  | put other stored => cases looked
  | clear => cases looked

theorem step_miss (on : cache.enabled = true) (looked : action.lookedUp? contexts = some key)
    (fresh : key ∉ Entries.keys cache.entries) : (cache.step contexts action).2.hits = cache.hits ∧
      (cache.step contexts action).2.misses = cache.misses + 1 := by
  have got := get_fresh on fresh
  cases action with
  | resolve owner scale value =>
    rw [step, resolveNamed_miss _ _ _ _ _ _ _ looked got, put, if_pos on]
    exact ⟨rfl, rfl⟩
  | get asked =>
    cases looked
    rw [step, got]
    exact ⟨rfl, rfl⟩
  | put other stored => cases looked
  | clear => cases looked

theorem step_uncounted (cache : Cache) (going : action.clears = false) (silent : action.lookedUp? contexts = none) :
    (cache.step contexts action).2.hits = cache.hits ∧ (cache.step contexts action).2.misses = cache.misses := by
  cases action with
  | resolve owner scale value =>
    rw [step, resolveNamed_unkeyed _ _ _ _ _ silent]
    exact ⟨rfl, rfl⟩
  | get asked => cases silent
  | put other stored =>
    rw [step, put]
    split <;> exact ⟨rfl, rfl⟩
  | clear => cases going

theorem get_enabled (cache : Cache) (key : CacheKey) : (cache.get key).2.enabled = cache.enabled := by
  unfold get
  split
  · rfl
  · cases Entries.find? key cache.entries <;> rfl

theorem put_enabled (cache : Cache) (key : CacheKey) (verdict : Verdict) :
    (cache.put key verdict).enabled = cache.enabled := by
  unfold put
  split <;> rfl

theorem step_enabled (contexts : Fin n → Context) (cache : Cache) (action : CacheStep n) :
    (cache.step contexts action).2.enabled = cache.enabled := by
  cases action with
  | resolve owner scale value =>
    refine resolveNamed_keeps (·.enabled = cache.enabled) cache _ _ _ _ rfl (get_enabled cache) fun key _ => ?_
    exact (put_enabled _ key _).trans (get_enabled cache key)
  | get key => exact get_enabled cache key
  | put key verdict => exact put_enabled cache key verdict
  | clear => rfl

theorem step_keys (names : List CacheKey) (on : cache.enabled = true) (going : action.clears = false)
    (known : Entries.keys cache.entries = names.eraseDups) :
    Entries.keys (cache.step contexts action).2.entries = (names ++ (action.stored? contexts).toList).eraseDups := by
  cases action with
  | resolve owner scale value =>
    rw [step, CacheStep.stored?]
    cases keyed : lookupKey? owner (contexts owner) scale value with
    | none => rw [resolveNamed_unkeyed _ _ _ _ _ keyed, known, Option.toList_none, List.append_nil]
    | some key =>
      -- A key that is stored already keeps its place. A new one comes last.
      by_cases listed : key ∈ Entries.keys cache.entries
      · obtain ⟨verdict, got⟩ := get_kept on listed
        have again : key ∈ names := by rwa [known, List.mem_eraseDups] at listed
        rw [resolveNamed_hit _ _ _ _ _ _ _ _ keyed got, known, Option.toList_some, eraseDups_concat, if_pos again]
      · rw [resolveNamed_miss _ _ _ _ _ _ _ keyed (get_fresh on listed), put, if_pos on]
        exact Entries.keys_put_firsts names key _ _ known
  | get key =>
    rw [step, get_entries, known]
    exact congrArg List.eraseDups (List.append_nil names).symm
  | put key verdict =>
    rw [step, put, if_pos on]
    exact Entries.keys_put_firsts names key verdict _ known
  | clear => cases going

-- The account of a run: one lookup counted for each that was made, and every stored key once, in the order of
-- the first storing.
structure Kept (contexts : Fin n → Context) (steps : List (CacheStep n)) (cache : Cache) : Prop where
  enabled : cache.enabled = true
  lookups : cache.hits + cache.misses = (sinceClear steps).countP CacheStep.isLookup
  keys : Entries.keys cache.entries = (storedKeys contexts steps).eraseDups

theorem Kept.listed (kept : Kept contexts earlier cache) (key : CacheKey) :
    key ∈ Entries.keys cache.entries ↔ key ∈ storedKeys contexts earlier := by
  rw [kept.keys, List.mem_eraseDups]

theorem Kept.counted (kept : Kept contexts earlier cache) (going : action.clears = false) :
    (cache.step contexts action).2.hits + (cache.step contexts action).2.misses =
      cache.hits + cache.misses + if action.isLookup then 1 else 0 := by
  rw [← lookedUp_isSome contexts action]
  cases looked : action.lookedUp? contexts with
  | none =>
    obtain ⟨hits, misses⟩ := step_uncounted cache going looked
    rw [hits, misses]
    rfl
  | some key =>
    by_cases listed : key ∈ Entries.keys cache.entries
    · obtain ⟨verdict, next⟩ := step_hit kept.enabled looked listed
      simp only [next, Option.isSome_some, if_true]
      omega
    · obtain ⟨hits, misses⟩ := step_miss kept.enabled looked listed
      simp only [hits, misses, Option.isSome_some, if_true]
      omega

theorem step_kept (action : CacheStep n) (kept : Kept contexts earlier cache) :
    Kept contexts (earlier ++ [action]) (cache.step contexts action).2 := by
  have enabled := (step_enabled contexts cache action).trans kept.enabled
  -- Only clearing begins the account anew.
  cases going : action.clears with
  | false =>
    refine ⟨enabled, ?_, ?_⟩
    · rw [kept.counted going, kept.lookups, sinceClear_concat, going, if_neg Bool.false_ne_true, List.countP_append,
        List.countP_singleton]
    · rw [storedKeys_concat going]
      exact step_keys _ kept.enabled going kept.keys
  | true =>
    have cleared : sinceClear (earlier ++ [action]) = [] := by rw [sinceClear_concat, going, if_pos rfl]
    have emptied : (cache.step contexts action).2 = cache.clear := by
      cases action with
      | clear => rfl
      | resolve | get | put => cases going
    rw [emptied] at enabled ⊢
    refine ⟨enabled, ?_, ?_⟩
    · rw [cleared]
      rfl
    · rw [storedKeys, cleared]
      rfl

theorem after_kept (contexts : Fin n → Context) (steps : List (CacheStep n)) :
    Kept contexts steps ((new true).after contexts steps) := by
  induction steps using List.reverseRecOn with
  | nil => exact ⟨rfl, rfl, rfl⟩
  | append_singleton earlier action ih =>
    rw [after_concat]
    exact step_kept action ih

theorem Kept.size (kept : Kept contexts earlier cache) : cache.size = (storedKeys contexts earlier).toFinset.card := by
  rw [← length_eraseDups, ← kept.keys, Entries.keys, List.length_map, Cache.size]

-- One step of a table that is in use: what it leaves, which key it looks up, and what it does to the counters.
structure Accounted (contexts : Fin n → Context) (earlier : List (CacheStep n)) (action : CacheStep n) (before : Cache)
    (next : Option Verdict × Cache) : Prop where
  lookups : next.2.hits + next.2.misses = (sinceClear (earlier ++ [action])).countP CacheStep.isLookup
  size : next.2.size = (storedKeys contexts (earlier ++ [action])).toFinset.card
  keyed : (action.lookedUp? contexts).isSome = action.isLookup
  hit : ∀ key, action.lookedUp? contexts = some key → key ∈ storedKeys contexts earlier →
    next.2.hits = before.hits + 1 ∧ next.2.misses = before.misses
  miss : ∀ key, action.lookedUp? contexts = some key → key ∉ storedKeys contexts earlier →
    next.2.hits = before.hits ∧ next.2.misses = before.misses + 1
  uncounted : action.lookedUp? contexts = none → action.clears = false →
    next.2.hits = before.hits ∧ next.2.misses = before.misses
  answer : ∀ key, action = .get key → (next.1.isSome ↔ key ∈ storedKeys contexts earlier)

theorem Kept.accounted (kept : Kept contexts earlier cache) (action : CacheStep n) :
    Accounted contexts earlier action cache (cache.step contexts action) where
  lookups := (step_kept action kept).lookups
  size := (step_kept action kept).size
  keyed := lookedUp_isSome contexts action
  hit key looked stored := by
    obtain ⟨verdict, next⟩ := step_hit kept.enabled looked ((kept.listed key).mpr stored)
    rw [next]
    exact ⟨rfl, rfl⟩
  miss key looked unstored := step_miss kept.enabled looked (mt (kept.listed key).mp unstored)
  uncounted silent going := step_uncounted cache going silent
  answer key asked := by
    subst asked
    rw [← kept.listed key, step]
    by_cases listed : key ∈ Entries.keys cache.entries
    · obtain ⟨verdict, got⟩ := get_kept kept.enabled listed
      simp [got, listed]
    · simp [get_fresh kept.enabled listed, listed]

theorem step_unused (contexts : Fin n → Context) (action : CacheStep n) :
    ((new false).step contexts action).2 = new false ∧
      ∀ key, action = .get key → ((new false).step contexts action).1 = none := by
  constructor
  · cases action with
    | resolve owner scale value =>
      exact resolveNamed_keeps (· = new false) (new false) _ _ _ _ rfl (fun _ => rfl) (fun _ _ => rfl)
    | get key => rfl
    | put key verdict => rfl
    | clear => rfl
  · rintro key rfl
    rfl

theorem after_unused (contexts : Fin n → Context) (steps : List (CacheStep n)) :
    (new false).after contexts steps = new false := by
  induction steps using List.reverseRecOn with
  | nil => rfl
  | append_singleton earlier action ih => rw [after_concat, ih, (step_unused contexts action).1]

theorem lookupKey_eq_iff (owner other : Nat) (a b : Context) (name again : ScaleName) (raw text : String)
    (numbers : a.thresholds.anyNaN = false) (others : b.thresholds.anyNaN = false) :
    LookupKey.of owner a name raw = LookupKey.of other b again text ↔
      name = again ∧ raw = text ∧ Context.AgreeOn name a b := by
  refine ⟨LookupKey.agreeOn owner other a b name again raw text, ?_⟩
  rintro ⟨rfl, rfl, agree⟩
  simp [LookupKey.of, numbers, others, agree.version, agree.strict, agree.approximate, agree.thresholds, agree.scale]

-- Each step of a history, with the steps before it. The key of a call does not tell contexts apart that agree.
theorem run_accounted (contexts : Fin n → Context) (numbers : ∀ owner, (contexts owner).thresholds.anyNaN = false)
    (enabled : Bool) (steps : List (CacheStep n)) (i : Nat) (action : CacheStep n) (asked : steps[i]? = some action) :
    let before := (new enabled).after contexts (steps.take i)
    let next := before.step contexts action
    ((new enabled).run contexts steps)[i]? = some next ∧
      (enabled = true → Accounted contexts (steps.take i) action before next) ∧
      (enabled = false → next.2.size = 0 ∧ next.2.hits = 0 ∧ next.2.misses = 0 ∧
        ∀ key, action = .get key → next.1 = none) ∧
      ∀ (owner other : Fin n) name again raw text,
        LookupKey.of owner (contexts owner) name raw = LookupKey.of other (contexts other) again text ↔
          name = again ∧ raw = text ∧ Context.AgreeOn name (contexts owner) (contexts other) := by
  intro before next
  refine ⟨by rw [run_getElem?, asked, Option.map_some], ?_, ?_, ?_⟩
  · rintro rfl
    exact (after_kept contexts (steps.take i)).accounted action
  · rintro rfl
    have unused : before = new false := after_unused contexts (steps.take i)
    obtain ⟨left, silent⟩ := step_unused contexts action
    simp only [next, unused, left]
    exact ⟨rfl, rfl, rfl, silent⟩
  · intro owner other name again raw text
    exact lookupKey_eq_iff owner other _ _ name again raw text (numbers owner) (numbers other)

theorem run_accounted_under_both_zeros :
    let contexts : Fin 2 → Context := fun i => zeroThreshold (i == 1)
    let steps : List (CacheStep 2) := [.get "mine", .clear, .resolve 0 "spacing" "1rem", .put "mine" (.ofToken "9"),
      .resolve 1 "spacing" " 1rem ", .clear]
    let before := (new true).after contexts (steps.take 4)
    (∀ owner, (contexts owner).thresholds.anyNaN = false) ∧ steps[4]? = some (.resolve 1 "spacing" " 1rem ") ∧
      ∃ next : Option Verdict × Cache, ((new true).run contexts steps)[4]? = some next ∧
        next.2.hits = before.hits + 1 ∧ next.2.misses = before.misses ∧
        next.2.hits + next.2.misses = 2 ∧ next.2.size = 2 := by
  intro contexts steps before
  have numbers : ∀ owner, (contexts owner).thresholds.anyNaN = false := by decide +kernel
  obtain ⟨ran, used, -, -⟩ := run_accounted contexts numbers true steps 4 (.resolve 1 "spacing" " 1rem ") rfl
  have accounted := used rfl
  have looked : lookupKey? 1 (contexts 1) "spacing" " 1rem " =
      some (.lookup (LookupKey.of 0 (contexts 0) .spacing "1rem")) := by decide +kernel
  obtain ⟨hits, misses⟩ := accounted.hit _ looked (by decide +kernel)
  have lookups : (sinceClear (steps.take 4 ++ [.resolve 1 "spacing" " 1rem "])).countP CacheStep.isLookup = 2 := by
    decide +kernel
  have stored : (storedKeys contexts (steps.take 4 ++ [.resolve 1 "spacing" " 1rem "])).toFinset.card = 2 := by
    decide +kernel
  exact ⟨numbers, rfl, _, ran, hits, misses, accounted.lookups.trans lookups, accounted.size.trans stored⟩

end Cache
end UtilityCss
