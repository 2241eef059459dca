import UtilityCss.Resolve.Cache

namespace UtilityCss

theorem Binary64.position_unsignedZero (x : Binary64) : position? x.unsignedZero = position? x := by
  cases x with
  | finite negative units =>
    by_cases zero : units = 0
    · subst zero
      cases negative <;> rfl
    · have nonzero : (units != 0) = true := by simpa using zero
      simp [unsignedZero, position?, nonzero]
  | infinite negative => rfl
  | nan => rfl

theorem Binary64.position_of_unsignedZero (x y : Binary64) (same : x.unsignedZero = y.unsignedZero) :
    position? x = position? y := by
  rw [← position_unsignedZero x, ← position_unsignedZero y, same]

theorem Binary64.atMost_of_position (x y bound : Binary64) (same : position? x = position? y) :
    x.atMost bound = y.atMost bound := by
  unfold atMost
  rw [same]

theorem Binary64.lessThan_of_position (x y bound : Binary64) (same : position? x = position? y) :
    x.lessThan bound = y.lessThan bound := by
  unfold lessThan
  rw [same]

-- All that a question about one scale depends on.
structure Context.AgreeOn (name : ScaleName) (a b : Context) : Prop where
  version : a.version = b.version
  strict : a.strict = b.strict
  approximate : a.approximate = b.approximate
  thresholds : a.thresholds.asNumbers = b.thresholds.asNumbers
  scale : ∀ layer, a.scale layer name = b.scale layer name

-- The owner that a key with NaN names is not needed here: NaN has no place on the line for anyone.
theorem LookupKey.agreeOn (owner other : Nat) (a b : Context) (name again : ScaleName) (raw text : String)
    (same : LookupKey.of owner a name raw = LookupKey.of other b again text) :
    name = again ∧ raw = text ∧ Context.AgreeOn name a b := by
  simp only [LookupKey.of, LookupKey.mk.injEq] at same
  obtain ⟨_, rfl, rfl, approximate, strict, version, thresholds, current, legacy⟩ := same
  refine ⟨rfl, rfl, version, strict, approximate, thresholds, ?_⟩
  intro layer
  cases layer with
  | current => exact current
  | legacy => exact legacy

namespace Profile

theorem scale_of_known (name : ScaleName) (profile : Profile) (known : Profile.of? name = some profile) :
    profile.scale = name := by
  cases name <;> cases known <;> rfl

theorem threshold_position (name : ScaleName) (profile : Profile) (gauge : Gauge) (t u : Thresholds)
    (known : Profile.of? name = some profile) (measured : profile.gauge? = some gauge)
    (same : t.asNumbers = u.asNumbers) :
    Binary64.position? (gauge.threshold t) = Binary64.position? (gauge.threshold u) := by
  simp only [Thresholds.asNumbers, Thresholds.mk.injEq] at same
  obtain ⟨spacing, font, radius⟩ := same
  cases name <;> simp only [of?, reduceCtorEq, Option.some.injEq] at known <;> subst known <;>
    simp only [reduceCtorEq, Option.some.injEq] at measured <;> subst measured
  case spacing => exact Binary64.position_of_unsignedZero _ _ spacing
  case fontSize => exact Binary64.position_of_unsignedZero _ _ font
  case lineHeight => exact Binary64.position_of_unsignedZero _ _ font
  case radius => exact Binary64.position_of_unsignedZero _ _ radius

theorem nearToken_agree (gauge : Gauge) (t u : Thresholds) (raw : String) (scale : Scale)
    (same : Binary64.position? (gauge.threshold t) = Binary64.position? (gauge.threshold u)) :
    nearToken? gauge t raw scale = nearToken? gauge u raw scale := by
  have admits : (gauge.threshold t).atMost .zero = (gauge.threshold u).atMost .zero :=
    Binary64.atMost_of_position _ _ _ same
  have exceeded : ∀ distance, (gauge.threshold t).lessThan distance =
      (gauge.threshold u).lessThan distance :=
    fun distance => Binary64.lessThan_of_position _ _ distance same
  simp only [nearToken?, admits, exceeded]

variable {name : ScaleName} {profile : Profile} {a b : Context}

theorem search_agree (known : Profile.of? name = some profile) (agree : Context.AgreeOn name a b)
    (raw : String) (scale : Scale) (layer : LayerName) :
    profile.search? a raw scale layer = profile.search? b raw scale layer := by
  unfold search?
  rw [agree.approximate, agree.strict]
  cases measured : profile.gauge? with
  | none => rfl
  | some gauge =>
    have position := threshold_position _ _ _ _ _ known measured agree.thresholds
    simp only [nearToken_agree gauge _ _ raw scale position]

theorem searchIn_agree (known : Profile.of? name = some profile) (agree : Context.AgreeOn name a b)
    (raw : String) (layer : LayerName) :
    profile.searchIn? a raw layer = profile.searchIn? b raw layer := by
  unfold searchIn?
  simp only [scale_of_known _ _ known, agree.scale layer, search_agree known agree]

theorem speaks_agree (known : Profile.of? name = some profile) (agree : Context.AgreeOn name a b)
    (layer : LayerName) : profile.speaks a layer = profile.speaks b layer := by
  unfold speaks
  rw [scale_of_known _ _ known, agree.scale layer]

theorem resolveLegacy_agree (known : Profile.of? name = some profile) (agree : Context.AgreeOn name a b)
    (consulted : Bool) (raw : String) :
    profile.resolveLegacy a consulted raw = profile.resolveLegacy b consulted raw := by
  unfold resolveLegacy missed
  rw [searchIn_agree known agree, speaks_agree known agree, agree.version, agree.strict]

theorem resolve_agree (known : Profile.of? name = some profile) (agree : Context.AgreeOn name a b)
    (raw : String) : profile.resolve a raw = profile.resolve b raw := by
  unfold resolve
  rw [agree.version, searchIn_agree known agree, speaks_agree known agree, agree.strict,
    resolveLegacy_agree known agree, resolveLegacy_agree known agree]

end Profile
end UtilityCss
