import UtilityCss.Proofs.Resolve.Exactness
import UtilityCss.Proofs.Resolve.Table

namespace UtilityCss
open Text

-- Verdicts that differ in the words of a warning at most.
structure Verdict.Alike (a b : Verdict) : Prop where
  kind : a.kindName = b.kindName
  token : a.token? = b.token?
  distance : a.distance? = b.distance?
  layer : a.layer? = b.layer?
  fallback : a.isFallback = b.isFallback
  warned : a.warning?.isSome = b.warning?.isSome

namespace Verdict

theorem alike_refl (verdict : Verdict) : verdict.Alike verdict := ⟨rfl, rfl, rfl, rfl, rfl, rfl⟩

theorem alike_near (token : String) (distance : Binary64) (layer : LayerName) (fallback : Bool) (words others : String) :
    (approximate token distance layer fallback words).Alike (.approximate token distance layer fallback others) :=
  ⟨rfl, rfl, rfl, rfl, rfl, rfl⟩

theorem alike_reported (words others : String) : (miss (some words)).Alike (.miss (some others)) :=
  ⟨rfl, rfl, rfl, rfl, rfl, rfl⟩

end Verdict

namespace Css

variable {raw text : String}

theorem read?_of_form (same : canonical raw = canonical text) : Quantity.read? raw = Quantity.read? text := by
  unfold Quantity.read?
  rw [same]

theorem pixels?_of_form (base : Binary64) (same : canonical raw = canonical text) :
    pixels? base raw = pixels? base text := by
  unfold pixels?
  rw [read?_of_form same]

theorem bareNumber?_of_form (same : canonical raw = canonical text) : bareNumber? raw = bareNumber? text := by
  unfold bareNumber? amountIn?
  rw [read?_of_form same]

end Css

namespace Profile

variable {name : ScaleName} {profile : Profile} {gauge : Gauge} {ctx : Context} {raw text : String} {layer : LayerName}
  {found other : Verdict}

theorem measure_of_form (known : Profile.of? name = some profile) (measured : profile.gauge? = some gauge)
    (same : profile.canonical raw = profile.canonical text) : gauge.measure? raw = gauge.measure? text := by
  cases name <;> simp only [of?, reduceCtorEq, Option.some.injEq] at known <;> subst known <;>
    simp only [reduceCtorEq, Option.some.injEq] at measured <;> subst measured <;> dsimp only [pixelGauge] at same ⊢
  case lineHeight => exact Css.bareNumber?_of_form same
  all_goals exact Css.pixels?_of_form Css.defaultFontPx same

theorem exactToken_of_form (same : profile.canonical raw = profile.canonical text) (scale : Scale) :
    profile.exactToken? raw scale = profile.exactToken? text scale := by
  unfold exactToken?
  rw [same]

theorem nearToken_of_form (same : gauge.measure? raw = gauge.measure? text) (thresholds : Thresholds) (scale : Scale) :
    nearToken? gauge thresholds raw scale = nearToken? gauge thresholds text scale := by
  unfold nearToken?
  rw [same]

theorem search_of_form (known : Profile.of? name = some profile)
    (same : profile.canonical raw = profile.canonical text) (scale : Scale)
    (search : profile.search? ctx raw scale layer = some found) :
    ∃ other, profile.search? ctx text scale layer = some other ∧ found.Alike other := by
  revert search
  unfold search?
  -- Both the comparison and the measure see the canonical form alone. The raw text shows in the warning.
  rw [exactToken_of_form same]
  cases profile.exactToken? text scale with
  | some token =>
    rintro ⟨⟩
    exact ⟨_, rfl, Verdict.alike_refl _⟩
  | none =>
    dsimp only
    split
    · cases measured : profile.gauge? with
      | none => nofun
      | some gauge =>
        dsimp only
        rw [nearToken_of_form (measure_of_form known measured same)]
        cases nearToken? gauge ctx.thresholds text scale with
        | none => nofun
        | some nearest =>
          rintro ⟨⟩
          exact ⟨_, rfl, Verdict.alike_near _ _ _ _ _ _⟩
    · nofun

theorem searchIn_of_form (known : Profile.of? name = some profile)
    (same : profile.canonical raw = profile.canonical text) (search : profile.searchIn? ctx raw layer = some found) :
    ∃ other, profile.searchIn? ctx text layer = some other ∧ found.Alike other := by
  revert search
  unfold searchIn?
  dsimp only
  split
  · nofun
  · exact search_of_form known same _

theorem searchIn_none_of_form (known : Profile.of? name = some profile)
    (same : profile.canonical raw = profile.canonical text) (silent : profile.searchIn? ctx raw layer = none) :
    profile.searchIn? ctx text layer = none := by
  cases search : profile.searchIn? ctx text layer with
  | none => rfl
  | some found =>
    obtain ⟨other, again, _⟩ := searchIn_of_form known same.symm search
    rw [silent] at again
    cases again

theorem asFallback_alike (raw text : String) (alike : found.Alike other) :
    (profile.asFallback raw found).Alike (profile.asFallback text other) := by
  obtain ⟨kind, token, distance, _, _, warned⟩ := alike
  cases found <;> cases other <;> simp only [Verdict.kindName, String.reduceEq] at kind
  case exact.exact => exact ⟨rfl, token, rfl, rfl, rfl, rfl⟩
  case approximate.approximate => exact ⟨rfl, token, distance, rfl, rfl, rfl⟩
  case miss.miss => exact ⟨rfl, rfl, rfl, rfl, rfl, warned⟩

theorem missed_alike (profile : Profile) (ctx : Context) (asked : Bool) (raw text : String) :
    (profile.missed ctx asked raw).Alike (profile.missed ctx asked text) := by
  unfold missed
  split
  · exact Verdict.alike_reported _ _
  · exact Verdict.alike_refl _

theorem resolve_of_form (known : Profile.of? name = some profile)
    (same : profile.canonical raw = profile.canonical text) :
    (profile.resolve ctx raw).Alike (profile.resolve ctx text) := by
  generalize decided : profile.resolve ctx raw = verdict
  rw [resolve_exact] at decided
  cases decided with
  | current _ version search =>
    obtain ⟨other, again, alike⟩ := searchIn_of_form known same search
    rw [resolve_complete (.current other version again)]
    exact alike
  | fallback found version passed unsettled search =>
    obtain ⟨other, again, alike⟩ := searchIn_of_form known same search
    have silent := searchIn_none_of_form known same passed
    rw [resolve_complete (.fallback other version silent unsettled again)]
    exact asFallback_alike raw text alike
  | legacy _ version search =>
    obtain ⟨other, again, alike⟩ := searchIn_of_form known same search
    rw [resolve_complete (.legacy other version again)]
    exact alike
  | settled version passed settles =>
    rw [resolve_complete (.settled version (searchIn_none_of_form known same passed) settles)]
    exact Verdict.alike_reported _ _
  | missed passed missing =>
    have silent := searchIn_none_of_form known same missing
    rw [resolve_complete (.missed (fun version => (passed version).imp_left (searchIn_none_of_form known same)) silent)]
    exact missed_alike profile ctx (profile.consults ctx) raw text

theorem written_of_form (known : Profile.of? name = some profile) (value : String) :
    profile.canonical value ≠ "" ↔ trim value ≠ "" := by
  rw [canonical_of_known known, Css.trim_ne_empty_iff]
  split
  · exact Css.canonicalColor_ne_empty_iff value
  · exact Css.canonical_ne_empty_iff value

end Profile

theorem resolve_alike (ctx : Context) (scale : ScaleName) (profile : Profile) (known : Profile.of? scale = some profile)
    (value text : String) (same : profile.canonical value = profile.canonical text) :
    (resolve ctx scale value).Alike (resolve ctx scale text) := by
  have blank : trim value = "" ↔ trim text = "" := by
    rw [← not_iff_not, ← Ne, ← Ne, ← Profile.written_of_form known, ← Profile.written_of_form known, same]
  rcases Decidable.em (trim value = "") with empty | written
  · have silent (s : String) (nothing : trim s = "") : resolve ctx scale s = .silentMiss := if_pos nothing
    rw [silent value empty, silent text (blank.mp empty)]
    exact Verdict.alike_refl _
  · rw [resolve_of_profile ctx scale value profile known written,
      resolve_of_profile ctx scale text profile known (mt blank.mpr written)]
    apply Profile.resolve_of_form known
    rw [Profile.canonical_trim known, Profile.canonical_trim known, same]

theorem resolveNamed_of_scale (ctx : Context) (scale : ScaleName) (value : String) :
    resolveNamed ctx scale.text value = resolve ctx scale value := by
  have known : ScaleName.ofText? scale.text = some scale := by cases scale <;> decide
  rw [resolveNamed, known]

-- Values of one form have verdicts that differ in the words of a warning at most, under every context, and wherever
-- in the history of a table they are asked for.
theorem verdict_of_form (scale : ScaleName) (profile : Profile) (known : Profile.of? scale = some profile)
    (value text : String) (same : profile.canonical value = profile.canonical text) :
    (∀ ctx, (resolve ctx scale value).Alike (resolve ctx scale text)) ∧
      ∀ (n : Nat) (contexts : Fin n → Context) (enabled : Bool) (steps : List (CacheStep n)),
        Cache.Apart contexts steps → ∀ (owner : Fin n) (i j : Nat),
          steps[i]? = some (.resolve owner scale.text value) → steps[j]? = some (.resolve owner scale.text text) →
            ∃ left right, ((Cache.new enabled).run contexts steps)[i]?.map Prod.fst = some (some left) ∧
              ((Cache.new enabled).run contexts steps)[j]?.map Prod.fst = some (some right) ∧ left.Alike right := by
  have alike := fun ctx => resolve_alike ctx scale profile known value text same
  refine ⟨alike, ?_⟩
  intro n contexts enabled steps apart owner i j first second
  have answer := Cache.run_answer contexts steps steps (Cache.new enabled) apart
    (Cache.new_sound contexts steps enabled) (fun _ member => member)
  refine ⟨_, _, answer i owner scale.text value first, answer j owner scale.text text second, ?_⟩
  rw [resolveNamed_of_scale, resolveNamed_of_scale]
  exact alike (contexts owner)

theorem verdict_of_form_near :
    let spacing (entries : List (String × String)) : Layer := { Layer.empty with spacing := ⟨entries⟩ }
    let ctx : Context := ⟨some (spacing [("8", "2rem")]), some (spacing [("3.5", "0.875rem")]), .current, false, true,
      .standard, standardScreens, true⟩
    let steps : List (CacheStep 1) := [.resolve 0 "spacing" "15px", .resolve 0 "spacing" " 15PX",
      .resolve 0 "spacing" "15px"]
    ∃ profile, Profile.of? .spacing = some profile ∧ profile.canonical " 15PX" = profile.canonical "15px" ∧
      resolve ctx .spacing " 15PX" = .approximate "3.5" 1 .legacy true
        "v3-fallback approximate: spacing 15PX → 3.5 (1.0px difference)" ∧
      (resolve ctx .spacing " 15PX").Alike (resolve ctx .spacing "15px") ∧
      Cache.Apart (fun _ => ctx) steps ∧ ∃ left right,
        ((Cache.new true).run (fun _ => ctx) steps)[1]?.map Prod.fst = some (some left) ∧
        ((Cache.new true).run (fun _ => ctx) steps)[2]?.map Prod.fst = some (some right) ∧ left.Alike right := by
  intro spacing ctx steps
  obtain ⟨profile, known⟩ : ∃ profile, Profile.of? .spacing = some profile := ⟨_, rfl⟩
  have form := Profile.canonical_of_known known
  rw [if_neg nofun] at form
  have same : profile.canonical " 15PX" = profile.canonical "15px" := by
    rw [form]
    decide +kernel
  have decided : resolve ctx .spacing " 15PX" = .approximate "3.5" 1 .legacy true
      "v3-fallback approximate: spacing 15PX → 3.5 (1.0px difference)" := by
    decide +kernel
  have apart : Cache.Apart (fun _ => ctx) steps := by
    intro key verdict member
    simp [steps] at member
  obtain ⟨alike, asked⟩ := verdict_of_form .spacing profile known " 15PX" "15px" same
  have first : steps[1]? = some (.resolve 0 ScaleName.spacing.text " 15PX") := rfl
  have second : steps[2]? = some (.resolve 0 ScaleName.spacing.text "15px") := rfl
  have answers := asked 1 (fun _ => ctx) true steps apart 0 1 2 first second
  exact ⟨profile, known, same, decided, alike ctx, apart, answers⟩

end UtilityCss
