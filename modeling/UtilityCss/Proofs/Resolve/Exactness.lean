import UtilityCss.Proofs.Css.Canonical
import UtilityCss.Proofs.Resolve.Agreement
import UtilityCss.Proofs.Resolve.Decision

namespace UtilityCss
open Text

-- Two values are alike if they have one canonical form. Keys and values of a scale may repeat: the first entry
-- that is alike counts.
def Scale.FirstAlike (canonical : String → String) (scale : Scale) (value token : String) : Prop :=
  ∃ before own after, scale.entries = before ++ (token, own) :: after ∧ canonical own = canonical value ∧
    ∀ entry ∈ before, canonical entry.2 ≠ canonical value

-- The layer that is searched first: a current layer without entries for the scale is passed over.
def Context.foremost (ctx : Context) (name : ScaleName) : LayerName :=
  if ctx.version = .current ∧ (ctx.scale .current name).isEmpty = false then .current else .legacy

namespace Profile

variable {profile : Profile} {ctx : Context} {raw : String} {layer : LayerName}

theorem canonical_of_known {name : ScaleName} (known : Profile.of? name = some profile) :
    profile.canonical = if name = .colors then Css.canonicalColor else Css.canonical := by
  cases name with
  | colors =>
    cases known
    rw [if_pos rfl]
  | screens => cases known
  | _ =>
    cases known
    rw [if_neg nofun]

theorem canonical_trim {name : ScaleName} (known : Profile.of? name = some profile) (value : String) :
    profile.canonical (trim value) = profile.canonical value := by
  rw [canonical_of_known known]
  split
  · exact Css.canonicalColor_trim value
  · exact Css.canonical_trim value

theorem exactToken_iff (profile : Profile) (raw : String) (scale : Scale) (token : String) :
    profile.exactToken? raw scale = some token ↔ scale.FirstAlike profile.canonical raw token := by
  rw [exactToken?, Option.map_eq_some_iff]
  simp only [List.find?_eq_some_iff_append, beq_iff_eq, Bool.not_eq_true', beq_eq_false_iff_ne]
  constructor
  · rintro ⟨⟨_, own⟩, ⟨alike, before, after, whole, others⟩, rfl⟩
    exact ⟨before, own, after, whole, alike, others⟩
  · rintro ⟨before, own, after, whole, alike, others⟩
    exact ⟨(token, own), ⟨alike, before, after, whole, others⟩, rfl⟩

theorem exactToken_of_alike (profile : Profile) (raw : String) (scale : Scale) (entry : String × String)
    (member : entry ∈ scale.entries) (alike : profile.canonical entry.2 = profile.canonical raw) :
    ∃ token, profile.exactToken? raw scale = some token := by
  rw [← Option.isSome_iff_exists, exactToken?, Option.isSome_map, List.find?_isSome]
  exact ⟨entry, member, by rw [alike, beq_self_eq_true]⟩

theorem searchIn_exact {token : String} {origin : Option LayerName} {fallback : Bool} {warning : Option String}
    (search : profile.searchIn? ctx raw layer = some (.exact token origin fallback warning)) :
    profile.exactToken? raw (ctx.scale layer profile.scale) = some token ∧ origin = some layer := by
  unfold searchIn? search? at search
  dsimp only at search
  split at search
  · cases search
  · split at search
    · rename_i found exact
      cases search
      exact ⟨exact, rfl⟩
    · split at search
      · split at search
        · cases search
        · obtain ⟨_, _, near⟩ := Option.map_eq_some_iff.mp search
          cases near
      · cases search

theorem resolve_exact_sound {token : String} {origin : Option LayerName} {fallback : Bool}
    {warning : Option String} (decided : profile.resolve ctx raw = .exact token origin fallback warning) :
    ∃ layer, origin = some layer ∧ profile.exactToken? raw (ctx.scale layer profile.scale) = some token := by
  generalize same : Verdict.exact token origin fallback warning = verdict at decided
  rw [resolve_exact] at decided
  cases decided with
  | current found _ search =>
    subst same
    obtain ⟨exact, layer⟩ := searchIn_exact search
    exact ⟨.current, layer, exact⟩
  | fallback found _ _ _ search =>
    cases found with
    | exact _ _ _ _ =>
      cases same
      exact ⟨.legacy, rfl, (searchIn_exact search).1⟩
    | approximate _ _ _ _ _ => cases same
    | miss _ => cases same
  | legacy found _ search =>
    subst same
    obtain ⟨exact, layer⟩ := searchIn_exact search
    exact ⟨.legacy, layer, exact⟩
  | settled => cases same
  | missed =>
    have hit := missed_isMiss profile ctx (profile.consults ctx) raw
    rw [← same] at hit
    cases hit

theorem resolve_exact_complete {token : String}
    (exact : profile.exactToken? raw (ctx.scale (ctx.foremost profile.scale) profile.scale) = some token) :
    ∃ warning, profile.resolve ctx raw =
      .exact token (some (ctx.foremost profile.scale)) (ctx.version != ctx.foremost profile.scale) warning := by
  have here : profile.exactIn? ctx raw (ctx.foremost profile.scale) =
      some (.exact token (some (ctx.foremost profile.scale)) false none) := by
    rw [exactIn?, exact]
    rfl
  have search := searchIn_of_exact here
  by_cases first : ctx.version = .current ∧ (ctx.scale .current profile.scale).isEmpty = false
  · have foremost : ctx.foremost profile.scale = .current := if_pos first
    rw [foremost] at search ⊢
    rw [first.1]
    exact ⟨none, resolve_complete (.current _ first.1 search)⟩
  · have foremost : ctx.foremost profile.scale = .legacy := if_neg first
    rw [foremost] at search ⊢
    cases version : ctx.version with
    | legacy => exact ⟨none, resolve_complete (.legacy _ version search)⟩
    -- A current layer without entries neither finds nor settles, so the question goes on to the legacy one.
    | current =>
      have silent : profile.speaks ctx .current = false := by
        rw [version] at first
        simpa [speaks] using first
      have unsettled : profile.settles ctx = false := by rw [settles, silent, Bool.and_false]
      exact ⟨_, resolve_complete (.fallback _ version (searchIn_unspoken silent) unsettled search)⟩

end Profile

theorem resolve_first_alike (ctx : Context) (scale : ScaleName) (profile : Profile)
    (known : Profile.of? scale = some profile) :
    let foremost := ctx.foremost scale
    (∀ value, trim value ≠ "" →
      ((∃ entry ∈ (ctx.scale foremost scale).entries, profile.canonical entry.2 = profile.canonical value) →
        ∃ token warning, (ctx.scale foremost scale).FirstAlike profile.canonical value token ∧
          resolve ctx scale value = .exact token (some foremost) (ctx.version != foremost) warning) ∧
      (∀ token origin fallback warning, resolve ctx scale value = .exact token origin fallback warning →
        ∃ layer, origin = some layer ∧ (ctx.scale layer scale).FirstAlike profile.canonical value token)) ∧
    ∀ entry ∈ (ctx.scale foremost scale).entries, trim entry.2 ≠ "" →
      ∃ token warning, resolve ctx scale entry.2 = .exact token (some foremost) (ctx.version != foremost) warning := by
  intro foremost
  have named := Profile.scale_of_known scale profile known
  have alike (layer : LayerName) (value token : String) :
      profile.exactToken? (trim value) (ctx.scale layer scale) = some token ↔
        (ctx.scale layer scale).FirstAlike profile.canonical value token := by
    rw [Profile.exactToken_iff, Scale.FirstAlike, Profile.canonical_trim known]
    rfl
  have finds : ∀ value, trim value ≠ "" →
      (∃ entry ∈ (ctx.scale foremost scale).entries, profile.canonical entry.2 = profile.canonical value) →
        ∃ token warning, (ctx.scale foremost scale).FirstAlike profile.canonical value token ∧
          resolve ctx scale value = .exact token (some foremost) (ctx.version != foremost) warning := by
    rintro value written ⟨entry, member, same⟩
    rw [← Profile.canonical_trim known value] at same
    obtain ⟨token, exact⟩ := Profile.exactToken_of_alike profile (trim value) _ entry member same
    have found : profile.exactToken? (trim value)
        (ctx.scale (ctx.foremost profile.scale) profile.scale) = some token := by rwa [named]
    obtain ⟨warning, decided⟩ := Profile.resolve_exact_complete found
    rw [named] at decided
    rw [resolve_of_profile ctx scale value profile known written]
    exact ⟨token, warning, (alike foremost value token).mp exact, decided⟩
  refine ⟨fun value written => ⟨finds value written, ?_⟩, ?_⟩
  · intro token origin fallback warning decided
    rw [resolve_of_profile ctx scale value profile known written] at decided
    obtain ⟨layer, here, exact⟩ := Profile.resolve_exact_sound decided
    rw [named] at exact
    exact ⟨layer, here, (alike layer value token).mp exact⟩
  · intro entry member written
    obtain ⟨token, warning, _, decided⟩ := finds entry.2 written ⟨entry, member, rfl⟩
    exact ⟨token, warning, decided⟩

theorem resolve_first_alike_repeated :
    let lengths : Scale := ⟨[("3", "15.5px"), ("4", " 1REM"), ("base", "1rem"), ("4", "2rem")]⟩
    let colours : Scale := ⟨[("snow", "#FFF"), ("paper", "#ffffff")]⟩
    let ctx : Context := ⟨some { Layer.empty with spacing := lengths }, some { Layer.empty with colors := colours },
      .current, false, true, .standard, standardScreens, false⟩
    ∃ length colour, Profile.of? .spacing = some length ∧ Profile.of? .colors = some colour ∧
      trim "1Rem " ≠ "" ∧ (∃ entry ∈ lengths.entries, length.canonical entry.2 = length.canonical "1Rem ") ∧
      (∃ token warning, lengths.FirstAlike length.canonical "1Rem " token ∧
        resolve ctx .spacing "1Rem " = .exact token (some .current) false warning) ∧
      trim "#fffFFF" ≠ "" ∧ resolve ctx .colors "#fffFFF" = .exact "snow" (some .legacy) true
        (some "v3-fallback: using legacy theme for color value #fffFFF → snow") ∧
      ∃ layer, some LayerName.legacy = some layer ∧
        (ctx.scale layer .colors).FirstAlike colour.canonical "#fffFFF" "snow" := by
  intro lengths colours ctx
  obtain ⟨length, lengthKnown⟩ : ∃ profile, Profile.of? .spacing = some profile := ⟨_, rfl⟩
  obtain ⟨colour, colourKnown⟩ : ∃ profile, Profile.of? .colors = some profile := ⟨_, rfl⟩
  have form := Profile.canonical_of_known lengthKnown
  rw [if_neg nofun] at form
  have alike : ∃ entry ∈ lengths.entries, length.canonical entry.2 = length.canonical "1Rem " := by
    rw [form]
    decide +kernel
  have decided : resolve ctx .colors "#fffFFF" = .exact "snow" (some .legacy) true
      (some "v3-fallback: using legacy theme for color value #fffFFF → snow") := by
    decide +kernel
  have spaced : trim "1Rem " ≠ "" := by decide +kernel
  have painted : trim "#fffFFF" ≠ "" := by decide +kernel
  obtain ⟨lengthAnswers, _⟩ := resolve_first_alike ctx .spacing length lengthKnown
  obtain ⟨colourAnswers, _⟩ := resolve_first_alike ctx .colors colour colourKnown
  exact ⟨length, colour, lengthKnown, colourKnown, spaced, alike, (lengthAnswers _ spaced).1 alike, painted, decided,
    (colourAnswers _ painted).2 _ _ _ _ decided⟩

end UtilityCss
