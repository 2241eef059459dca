import UtilityCss.Proofs.Resolve.Agreement
import UtilityCss.Proofs.Resolve.Decision
import UtilityCss.Text.Search

namespace UtilityCss
open Text

-- How a match of the legacy layer stands to itself once it is a fallback: all but the mark is kept.
structure Verdict.MarkedFrom (marked found : Verdict) : Prop where
  kind : marked.kindName = found.kindName
  token : marked.token? = found.token?
  distance : marked.distance? = found.distance?
  layer : marked.layer? = found.layer?
  fallback : marked.isFallback = true
  warning : ∃ text, marked.warning? = some text ∧ beginsWith "v3-fallback" text = true
  nested : found.kindName = "approximate" →
    ∃ text, found.warning? = some text ∧ marked.warning? = some ("v3-fallback " ++ text)

namespace Profile

variable {profile : Profile} {ctx : Context} {raw : String} {verdict : Verdict}

theorem fallbackWarning_begins (profile : Profile) (raw token : String) :
    beginsWith "v3-fallback" (profile.fallbackWarning raw token) = true := by
  unfold fallbackWarning
  simp only [String.append_assoc]
  exact beginsWith_extended _ _ _ (by decide)

theorem asFallback_marked (found : FoundIn .legacy verdict) :
    (profile.asFallback raw verdict).MarkedFrom verdict := by
  obtain ⟨hit, layer⟩ := found
  cases verdict with
  | exact token from? fallback warning =>
    refine ⟨rfl, rfl, rfl, layer.symm, rfl, ⟨_, rfl, fallbackWarning_begins profile raw token⟩, ?_⟩
    intro near
    change "exact" = "approximate" at near
    exact absurd near (by decide)
  | approximate token distance origin fallback warning =>
    refine ⟨rfl, rfl, rfl, layer.symm, rfl, ⟨_, rfl, ?_⟩, fun _ => ⟨warning, rfl, rfl⟩⟩
    exact beginsWith_extended _ _ _ (by decide)
  | miss warning => cases hit

theorem missed_of_unsettled (version : ctx.version = .current) (unsettled : profile.settles ctx = false) :
    profile.missed ctx (profile.consults ctx) raw =
      profile.missed ctx (profile.consults { ctx with version := .legacy }) raw := by
  have legacy : profile.consults { ctx with version := .legacy } = profile.speaks ctx .legacy :=
    consults_legacy rfl
  rw [consults_current version, legacy]
  unfold missed
  cases strict : ctx.strict with
  | false => rfl
  | true =>
    have silent : profile.speaks ctx .current = false := by simpa [settles, strict] using unsettled
    rw [silent, Bool.false_or]

theorem resolve_layers (profile : Profile) (ctx : Context) (raw : String) (version : ctx.version = .current) :
    let alone := profile.resolve { ctx with legacy := none } raw
    let behind := profile.resolve { ctx with version := .legacy } raw
    (alone.isMiss = false ∨ profile.settles ctx = true → profile.resolve ctx raw = alone) ∧
      (alone.isMiss = true → profile.settles ctx = false →
        (behind.isMiss = true → profile.resolve ctx raw = behind) ∧
        (behind.isMiss = false → (profile.resolve ctx raw).MarkedFrom behind)) := by
  intro alone behind
  have nothing : profile.searchIn? { ctx with legacy := none } raw .legacy = none := searchIn_unspoken rfl
  generalize whole : profile.resolve ctx raw = verdict
  rw [resolve_exact] at whole
  -- By the rule that gave the verdict: the same rule, or the one for a miss, gives those of the two other
  -- contexts.
  cases whole with
  | current _ _ search =>
    have same : alone = verdict := resolve_complete (.current verdict version search)
    have hit := (searchIn_found search).hit
    rw [same]
    refine ⟨fun _ => rfl, fun miss => ?_⟩
    rw [hit] at miss
    cases miss
  | fallback found _ passed unsettled search =>
    have missing : alone = _ := resolve_complete (.missed (fun _ => ⟨passed, unsettled⟩) nothing)
    have same : behind = found := resolve_complete (.legacy found rfl search)
    have matched := searchIn_found search
    rw [missing, same, missed_isMiss, unsettled]
    refine ⟨by simp, fun _ _ => ⟨fun miss => ?_, fun _ => asFallback_marked matched⟩⟩
    rw [matched.hit] at miss
    cases miss
  | legacy _ other _ =>
    rw [version] at other
    cases other
  | settled _ passed settled =>
    have same : alone = _ := resolve_complete (.settled version passed settled)
    rw [same, settled]
    exact ⟨fun _ => rfl, nofun⟩
  | missed passed missing =>
    obtain ⟨none, unsettled⟩ := passed version
    have same : alone = _ := resolve_complete (.missed (fun _ => ⟨none, unsettled⟩) nothing)
    have also : behind = _ := resolve_complete (.missed nofun missing)
    rw [same, also, missed_of_unsettled version unsettled, missed_isMiss, missed_isMiss, unsettled]
    exact ⟨by simp, fun _ _ => ⟨fun _ => rfl, by simp⟩⟩

end Profile

-- A verdict of the current layer alone stands unless it is a miss, and also then under the strict policy if
-- the current scale has entries. Else the legacy layer decides, and a match of it is marked.
theorem resolve_layered (ctx : Context) (scale : ScaleName) (value : String) (version : ctx.version = .current) :
    let alone := resolve { ctx with legacy := none } scale value
    let behind := resolve { ctx with version := .legacy } scale value
    let settled := ctx.strict = true ∧ (ctx.scale .current scale).isEmpty = false
    (alone.isMiss = false ∨ settled → resolve ctx scale value = alone) ∧
      (alone.isMiss = true → ¬settled →
        (behind.isMiss = true → resolve ctx scale value = behind) ∧
        (behind.isMiss = false → (resolve ctx scale value).MarkedFrom behind)) := by
  intro alone behind settled
  rcases resolve_silent_or_profile scale value with silent | ⟨profile, known, _, decides⟩
  · have missing : behind = .silentMiss := silent _
    rw [show alone = .silentMiss from silent _, missing, silent ctx]
    exact ⟨fun _ => rfl, fun _ _ => ⟨fun _ => rfl, nofun⟩⟩
  · have asked : settled ↔ profile.settles ctx = true := by
      simp [settled, Profile.settles, Profile.speaks, Profile.scale_of_known scale profile known]
    rw [show alone = _ from decides _, show behind = _ from decides _, decides ctx, asked, Bool.not_eq_true]
    exact Profile.resolve_layers profile ctx (trim value) version

theorem resolve_layered_near :
    let spacing (entries : List (String × String)) : Layer := { Layer.empty with spacing := ⟨entries⟩ }
    let ctx : Context := ⟨some (spacing [("8", "2rem")]), some (spacing [("3.5", "0.875rem")]), .current, false, true,
      .standard, standardScreens, false⟩
    ctx.version = .current ∧ (resolve { ctx with legacy := none } .spacing "15px").isMiss = true ∧
      resolve { ctx with version := .legacy } .spacing "15px" = .approximate "3.5" 1 .legacy false
        "approximate: spacing 15px → 3.5 (1.0px difference)" ∧
      (resolve ctx .spacing "15px").MarkedFrom (resolve { ctx with version := .legacy } .spacing "15px") := by
  intro spacing ctx
  have alone : (resolve { ctx with legacy := none } .spacing "15px").isMiss = true := by decide +kernel
  have behind : resolve { ctx with version := .legacy } .spacing "15px" = .approximate "3.5" 1 .legacy false
      "approximate: spacing 15px → 3.5 (1.0px difference)" := by decide +kernel
  obtain ⟨_, otherwise⟩ := resolve_layered ctx .spacing "15px" rfl
  obtain ⟨_, marked⟩ := otherwise alone (fun settled => by cases settled.1)
  exact ⟨rfl, alone, behind, marked (by rw [behind]; rfl)⟩

end UtilityCss
