import UtilityCss.Resolve.Search

namespace UtilityCss
open Text

theorem resolve_of_profile (ctx : Context) (scale : ScaleName) (value : String) (profile : Profile)
    (known : Profile.of? scale = some profile) (written : trim value ≠ "") :
    resolve ctx scale value = profile.resolve ctx (trim value) := by
  simp only [resolve, written, if_false, known]

theorem resolve_silent_or_profile (scale : ScaleName) (value : String) :
    (∀ ctx, resolve ctx scale value = .silentMiss) ∨
      ∃ profile, Profile.of? scale = some profile ∧ trim value ≠ "" ∧
        ∀ ctx, resolve ctx scale value = profile.resolve ctx (trim value) := by
  by_cases blank : trim value = ""
  · exact .inl fun ctx => if_pos blank
  · cases known : Profile.of? scale with
    | none =>
      left
      intro ctx
      simp only [resolve, blank, if_false, known]
    | some profile =>
      exact .inr ⟨profile, rfl, blank, fun ctx => resolve_of_profile ctx scale value profile known blank⟩

namespace Profile

variable {profile : Profile} {ctx : Context} {raw : String} {layer : LayerName} {verdict : Verdict}

def exactIn? (profile : Profile) (ctx : Context) (raw : String) (layer : LayerName) : Option Verdict :=
  (profile.exactToken? raw (ctx.scale layer profile.scale)).map fun token =>
    .exact token (some layer) false none

theorem searchIn_unspoken (silent : profile.speaks ctx layer = false) :
    profile.searchIn? ctx raw layer = none := by
  have empty : (ctx.scale layer profile.scale).isEmpty = true := by simpa [speaks] using silent
  simp only [searchIn?, empty, if_true]

theorem searchIn_of_exact (found : profile.exactIn? ctx raw layer = some verdict) :
    profile.searchIn? ctx raw layer = some verdict := by
  obtain ⟨token, exact, rfl⟩ := Option.map_eq_some_iff.mp found
  have spoken : (ctx.scale layer profile.scale).isEmpty = false := by
    cases shape : ctx.scale layer profile.scale with
    | mk entries =>
      rw [shape] at exact
      cases entries with
      | nil => cases exact
      | cons first rest => rfl
  simp only [searchIn?, spoken, Bool.false_eq_true, if_false, search?, exact]

theorem searchIn_of_plain (plain : (ctx.approximate && !ctx.strict) = false) :
    profile.searchIn? ctx raw layer = profile.exactIn? ctx raw layer := by
  cases exact : profile.exactIn? ctx raw layer with
  | some verdict => exact searchIn_of_exact exact
  | none =>
    have missing : profile.exactToken? raw (ctx.scale layer profile.scale) = none := by
      simpa [exactIn?] using exact
    simp only [searchIn?, search?, missing, plain, Bool.false_eq_true, if_false, ite_self]

-- What a search finds is a match, of the layer that was searched.
structure FoundIn (layer : LayerName) (verdict : Verdict) : Prop where
  hit : verdict.isMiss = false
  layer : verdict.layer? = some layer

theorem searchIn_found (found : profile.searchIn? ctx raw layer = some verdict) : FoundIn layer verdict := by
  unfold searchIn? search? at found
  dsimp only at found
  split at found
  · cases found
  · split at found
    · cases found
      exact ⟨rfl, rfl⟩
    · split at found
      · split at found
        · cases found
        · obtain ⟨nearest, _, rfl⟩ := Option.map_eq_some_iff.mp found
          exact ⟨rfl, rfl⟩
      · cases found

theorem missed_isMiss (profile : Profile) (ctx : Context) (asked : Bool) (raw : String) :
    (profile.missed ctx asked raw).isMiss = true := by
  unfold missed
  split <;> rfl

def consults (profile : Profile) (ctx : Context) : Bool :=
  ctx.version == .current && profile.speaks ctx .current || profile.speaks ctx .legacy

theorem consults_current (version : ctx.version = .current) :
    profile.consults ctx = (profile.speaks ctx .current || profile.speaks ctx .legacy) := by
  simp [consults, version]

theorem consults_legacy (version : ctx.version = .legacy) :
    profile.consults ctx = profile.speaks ctx .legacy := by
  simp [consults, version]

-- Under the strict policy a current scale with entries has the last word.
def settles (profile : Profile) (ctx : Context) : Bool := ctx.strict && profile.speaks ctx .current

inductive Decided (profile : Profile) (ctx : Context) (raw : String) : Verdict → Prop where
  | current (found : Verdict) (version : ctx.version = .current)
      (search : profile.searchIn? ctx raw .current = some found) : Decided profile ctx raw found
  | fallback (found : Verdict) (version : ctx.version = .current)
      (passed : profile.searchIn? ctx raw .current = none) (unsettled : profile.settles ctx = false)
      (search : profile.searchIn? ctx raw .legacy = some found) :
      Decided profile ctx raw (profile.asFallback raw found)
  | legacy (found : Verdict) (version : ctx.version = .legacy)
      (search : profile.searchIn? ctx raw .legacy = some found) : Decided profile ctx raw found
  | settled (version : ctx.version = .current) (passed : profile.searchIn? ctx raw .current = none)
      (settles : profile.settles ctx = true) : Decided profile ctx raw (.miss (some (profile.missWarning raw)))
  | missed (passed : ctx.version = .current → profile.searchIn? ctx raw .current = none ∧
        profile.settles ctx = false) (missing : profile.searchIn? ctx raw .legacy = none) :
      Decided profile ctx raw (profile.missed ctx (profile.consults ctx) raw)

theorem resolve_sound (profile : Profile) (ctx : Context) (raw : String) :
    Decided profile ctx raw (profile.resolve ctx raw) := by
  unfold resolve resolveLegacy
  cases version : ctx.version with
  | legacy =>
    cases search : profile.searchIn? ctx raw .legacy with
    | some found => exact .legacy found version search
    | none =>
      dsimp only
      rw [Bool.false_or, ← consults_legacy version]
      refine .missed (fun current => ?_) search
      rw [version] at current
      cases current
  | current =>
    -- Strict mode settles a miss of the current layer only if that layer has entries for the scale.
    cases passed : profile.searchIn? ctx raw .current with
    | some found => exact .current found version passed
    | none =>
      dsimp only
      cases settled : ctx.strict && profile.speaks ctx .current with
      | true => exact .settled version passed settled
      | false =>
        cases search : profile.searchIn? ctx raw .legacy with
        | some found => exact .fallback found version passed settled search
        | none =>
          rw [if_neg Bool.false_ne_true, ← consults_current version]
          exact .missed (fun _ => ⟨passed, settled⟩) search

theorem resolve_complete (decided : Decided profile ctx raw verdict) : profile.resolve ctx raw = verdict := by
  unfold resolve resolveLegacy
  cases decided with
  | current found version search => simp only [version, search]
  | fallback found version passed unsettled search =>
    rw [settles] at unsettled
    simp only [version, passed, unsettled, Bool.false_eq_true, if_false, search]
  | legacy found version search => simp only [version, search]
  | settled version passed settled =>
    rw [settles] at settled
    simp only [version, passed, settled, if_true]
  | missed passed missing =>
    cases version : ctx.version with
    | legacy => simp only [missing, consults_legacy version, Bool.false_or]
    | current =>
      obtain ⟨none, unsettled⟩ := passed version
      rw [settles] at unsettled
      simp only [none, unsettled, Bool.false_eq_true, if_false, missing, consults_current version]

theorem resolve_exact : profile.resolve ctx raw = verdict ↔ Decided profile ctx raw verdict :=
  ⟨fun same => same ▸ resolve_sound profile ctx raw, resolve_complete⟩

end Profile
end UtilityCss
