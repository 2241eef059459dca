import UtilityCss.Proofs.Resolve.Agreement
import UtilityCss.Proofs.Resolve.Decision

namespace UtilityCss
open Text

-- Contexts that differ in their policy at most: in strictness, approximation and thresholds.
structure Context.SameTheme (a b : Context) : Prop where
  current : a.current = b.current
  legacy : a.legacy = b.legacy
  version : a.version = b.version

theorem Context.SameTheme.scale {a b : Context} (same : a.SameTheme b) (layer : LayerName) (name : ScaleName) :
    a.scale layer name = b.scale layer name := by
  unfold Context.scale layer?
  rw [same.current, same.legacy]

theorem Verdict.isMiss_eq (verdict : Verdict) : verdict.isMiss = (verdict.kindName == "miss") := by
  cases verdict <;> rfl

theorem Verdict.hit_of_exact (verdict : Verdict) (exactly : verdict.kindName = "exact") :
    verdict.isMiss = false := by
  rw [isMiss_eq, exactly]
  rfl

namespace Profile

variable {profile : Profile} {a b : Context} {raw : String} {layer : LayerName} {verdict : Verdict}

theorem exactIn_of_theme (same : a.SameTheme b) (layer : LayerName) :
    profile.exactIn? a raw layer = profile.exactIn? b raw layer := by
  unfold exactIn?
  rw [same.scale]

theorem speaks_of_theme (same : a.SameTheme b) (layer : LayerName) :
    profile.speaks a layer = profile.speaks b layer := by
  unfold speaks
  rw [same.scale]

theorem searchIn_of_theme (same : a.SameTheme b) (plain : (a.approximate && !a.strict) = false)
    (search : profile.searchIn? a raw layer = some verdict) : profile.searchIn? b raw layer = some verdict := by
  rw [searchIn_of_plain plain, exactIn_of_theme same] at search
  exact searchIn_of_exact search

theorem asFallback_kind (profile : Profile) (raw : String) (verdict : Verdict) :
    (profile.asFallback raw verdict).kindName = verdict.kindName := by
  cases verdict <;> rfl

theorem asFallback_isMiss (profile : Profile) (raw : String) (verdict : Verdict) :
    (profile.asFallback raw verdict).isMiss = verdict.isMiss := by
  rw [Verdict.isMiss_eq, asFallback_kind, ← Verdict.isMiss_eq]

theorem strict_plain (strict : a.strict = true) : (a.approximate && !a.strict) = false := by
  rw [strict, Bool.not_true, Bool.and_false]

theorem resolve_of_strict (same : a.SameTheme b) (strict : a.strict = true)
    (hit : (profile.resolve a raw).isMiss = false) : profile.resolve b raw = profile.resolve a raw := by
  have plain := strict_plain strict
  generalize decided : profile.resolve a raw = verdict at hit
  rw [resolve_exact] at decided ⊢
  cases decided with
  | current _ version search =>
    exact .current verdict (same.version ▸ version) (searchIn_of_theme same plain search)
  | fallback found version _ unsettled search =>
    have silent : profile.speaks b .current = false := by
      rw [← speaks_of_theme same]
      simpa [settles, strict] using unsettled
    refine .fallback found (same.version ▸ version) (searchIn_unspoken silent) ?_
      (searchIn_of_theme same plain search)
    rw [settles, silent, Bool.and_false]
  | legacy _ version search =>
    exact .legacy verdict (same.version ▸ version) (searchIn_of_theme same plain search)
  | settled => cases hit
  | missed =>
    rw [missed_isMiss] at hit
    cases hit

theorem searchIn_kind (plain : (a.approximate && !a.strict) = false)
    (search : profile.searchIn? a raw layer = some verdict) : verdict.kindName = "exact" := by
  rw [searchIn_of_plain plain] at search
  obtain ⟨_, _, rfl⟩ := Option.map_eq_some_iff.mp search
  rfl

theorem strict_resolve (profile : Profile) (raw : String) (strict : a.strict = true) :
    (profile.resolve a raw).kindName = "exact" ∨ profile.resolve a raw =
      .miss (if profile.consults a then some (profile.missWarning raw) else none) := by
  have plain := strict_plain strict
  generalize decided : profile.resolve a raw = verdict
  rw [resolve_exact] at decided
  cases decided with
  | current _ _ search => exact .inl (searchIn_kind plain search)
  | fallback found _ _ _ search =>
    rw [asFallback_kind]
    exact .inl (searchIn_kind plain search)
  | legacy _ _ search => exact .inl (searchIn_kind plain search)
  | settled version _ settled =>
    have spoken : profile.speaks a .current = true := by simpa [settles, strict] using settled
    have asked : profile.consults a = true := by rw [consults_current version, spoken, Bool.true_or]
    rw [asked]
    exact .inr rfl
  | missed =>
    right
    unfold missed
    rw [strict, Bool.true_and]
    cases profile.consults a <;> rfl

-- A near match of the current layer may come before an exact one of the legacy layer; either is a match.
theorem resolve_hit_of_plain (same : a.SameTheme b) (plain : a.approximate = false) (lenient : b.strict = false)
    (hit : (profile.resolve a raw).isMiss = false) : (profile.resolve b raw).isMiss = false := by
  have precise : (a.approximate && !a.strict) = false := by rw [plain, Bool.false_and]
  have unsettled : profile.settles b = false := by rw [settles, lenient, Bool.false_and]
  generalize decided : profile.resolve a raw = verdict at hit
  rw [resolve_exact] at decided
  cases decided with
  | current _ version search =>
    have again := searchIn_of_theme same precise search
    rw [resolve_complete (.current verdict (same.version ▸ version) again)]
    exact hit
  | legacy _ version search =>
    have again := searchIn_of_theme same precise search
    rw [resolve_complete (.legacy verdict (same.version ▸ version) again)]
    exact hit
  | fallback found version _ _ search =>
    have again := searchIn_of_theme same precise search
    have version : b.version = .current := same.version ▸ version
    -- Only the second context looks for near matches, so the current layer may answer it already.
    cases sooner : profile.searchIn? b raw .current with
    | some near =>
      rw [resolve_complete (.current near version sooner)]
      exact (searchIn_found sooner).hit
    | none =>
      rw [resolve_complete (.fallback found version sooner unsettled again)]
      rw [asFallback_isMiss]
      exact (searchIn_found again).hit
  | settled => cases hit
  | missed =>
    rw [missed_isMiss] at hit
    cases hit

theorem missWarning_begins (profile : Profile) (raw : String) :
    beginsWith "token-miss" (profile.missWarning raw) = true := by
  unfold missWarning
  simp only [String.append_assoc]
  exact beginsWith_extended _ _ _ (by decide)

theorem consults_iff (profile : Profile) (ctx : Context) : profile.consults ctx = true ↔
    (ctx.scale .legacy profile.scale).isEmpty = false ∨
      ctx.version = .current ∧ (ctx.scale .current profile.scale).isEmpty = false := by
  unfold consults speaks
  simp only [Bool.or_eq_true, Bool.and_eq_true, Bool.not_eq_true', beq_iff_eq]
  exact or_comm

end Profile

theorem resolve_policies (scale : ScaleName) (resolvable : (Profile.of? scale).isSome = true) (value : String)
    (written : trim value ≠ "") (a b : Context) (same : a.SameTheme b) :
    (a.strict = true → (resolve a scale value).kindName = "exact" →
      resolve b scale value = resolve a scale value) ∧
    (a.strict = true → (resolve a scale value).kindName ≠ "approximate" ∧
      ∀ warning, resolve a scale value = .miss warning →
        ((∃ text, warning = some text ∧ beginsWith "token-miss" text = true) ↔
          (a.scale .legacy scale).isEmpty = false ∨
            a.version = .current ∧ (a.scale .current scale).isEmpty = false)) ∧
    (a.strict = false → a.approximate = false → (resolve a scale value).isMiss = false →
      b.strict = false → b.approximate = true → (resolve b scale value).isMiss = false) := by
  obtain ⟨profile, known⟩ := Option.isSome_iff_exists.mp resolvable
  rw [resolve_of_profile a scale value profile known written,
    resolve_of_profile b scale value profile known written]
  refine ⟨?_, ?_, ?_⟩
  · intro strict exactly
    exact Profile.resolve_of_strict same strict (Verdict.hit_of_exact _ exactly)
  · intro strict
    have asked := Profile.consults_iff profile a
    rw [Profile.scale_of_known scale profile known] at asked
    rw [← asked]
    rcases Profile.strict_resolve profile (trim value) strict with exactly | missed
    · rw [exactly]
      refine ⟨by decide, ?_⟩
      intro warning missed
      have hit := Verdict.hit_of_exact _ exactly
      rw [missed] at hit
      cases hit
    · rw [missed]
      refine ⟨by rw [Verdict.kindName]; decide, ?_⟩
      intro warning same
      cases same
      cases profile.consults a with
      | false => simp
      | true => simpa using Profile.missWarning_begins profile (trim value)
  · intro _ plain hit lenient _
    exact Profile.resolve_hit_of_plain same plain lenient hit

theorem resolve_policies_preempted :
    let spacing (entries : List (String × String)) : Layer := { Layer.empty with spacing := ⟨entries⟩ }
    let policy (strict approximate : Bool) : Context := ⟨some (spacing [("4", "1rem")]),
      some (spacing [("3.5", "0.875rem")]), .current, strict, approximate, .standard, standardScreens, false⟩
    resolve (policy true false) .spacing " 1rem " = .exact "4" (some .current) false none ∧
      resolve (policy false true) .spacing " 1rem " = resolve (policy true false) .spacing " 1rem " ∧
      (∃ warning text, resolve (policy true true) .spacing "0.875rem" = .miss warning ∧ warning = some text ∧
        beginsWith "token-miss" text = true) ∧
      resolve (policy false false) .spacing "0.875rem" = .exact "3.5" (some .legacy) true
        (some "v3-fallback: using legacy theme for spacing value 0.875rem → 3.5") ∧
      (resolve (policy false true) .spacing "0.875rem").isMiss = false := by
  intro spacing policy
  have same (strict approximate : Bool) : (policy strict approximate).SameTheme (policy false true) :=
    ⟨rfl, rfl, rfl⟩
  have found : resolve (policy true false) .spacing " 1rem " = .exact "4" (some .current) false none := by
    decide +kernel
  have missed : resolve (policy true true) .spacing "0.875rem" =
      .miss (some "token-miss: no exact match for spacing value 0.875rem") := by
    decide +kernel
  have legacy : resolve (policy false false) .spacing "0.875rem" = .exact "3.5" (some .legacy) true
      (some "v3-fallback: using legacy theme for spacing value 0.875rem → 3.5") := by
    decide +kernel
  obtain ⟨lasting, _, _⟩ := resolve_policies .spacing rfl " 1rem " (by decide) _ _ (same true false)
  obtain ⟨_, reported, _⟩ := resolve_policies .spacing rfl "0.875rem" (by decide) _ _ (same true true)
  obtain ⟨_, _, kept⟩ := resolve_policies .spacing rfl "0.875rem" (by decide) _ _ (same false false)
  obtain ⟨_, exactly⟩ := reported rfl
  obtain ⟨text, given, begins⟩ := (exactly _ missed).mpr (.inl rfl)
  exact ⟨found, lasting rfl (by rw [found]; rfl), ⟨_, text, missed, given, begins⟩, legacy,
    kept rfl rfl (by rw [legacy]; rfl) rfl rfl⟩

end UtilityCss
