import UtilityCss.Proofs.Entries
import UtilityCss.Proofs.Resolve.Agreement
import UtilityCss.Proofs.Resolve.Decision

namespace UtilityCss
open Text

theorem Nearest.among_known (value : Binary64) (entries : Entries String Binary64) (nearest : Nearest)
    (found : among? value entries = some nearest) : nearest.token ∈ Entries.keys entries := by
  cases entries with
  | nil => cases found
  | cons first rest =>
    cases found
    -- The best candidate so far has the token of one of the entries that were compared.
    suffices run : ∀ best : Nearest, (rest.foldl (fun best entry => closer best (candidate value entry)) best).token ∈
        best.token :: Entries.keys rest from run (candidate value first)
    induction rest with
    | nil => exact fun best => List.mem_cons_self
    | cons next rest ih =>
      intro best
      rcases List.mem_cons.mp (ih (closer best (candidate value next))) with here | later
      · rw [List.foldl_cons, here, closer]
        split
        · exact List.mem_cons_of_mem _ List.mem_cons_self
        · exact List.mem_cons_self
      · exact List.mem_cons_of_mem _ (List.mem_cons_of_mem _ later)

namespace Profile

variable {profile : Profile} {ctx : Context} {raw : String} {layer : LayerName} {verdict : Verdict}

theorem measured_known (gauge : Gauge) (scale : Scale) (token : String)
    (member : token ∈ Entries.keys (measured gauge scale)) : token ∈ scale.names := by
  rw [measured, Entries.mem_keys_ofList, List.mem_map] at member
  obtain ⟨row, listed, rfl⟩ := member
  obtain ⟨entry, known, same⟩ := List.mem_filterMap.mp listed
  obtain ⟨_, _, rfl⟩ := Option.map_eq_some_iff.mp same
  exact List.mem_map_of_mem known

theorem exactToken_known (token : String) (scale : Scale) (found : profile.exactToken? raw scale = some token) :
    token ∈ scale.names := by
  obtain ⟨entry, first, rfl⟩ := Option.map_eq_some_iff.mp found
  exact List.mem_map_of_mem (List.mem_of_find?_eq_some first)

theorem nearToken_known (gauge : Gauge) (thresholds : Thresholds) (scale : Scale) (nearest : Nearest)
    (found : nearToken? gauge thresholds raw scale = some nearest) : nearest.token ∈ scale.names := by
  unfold nearToken? at found
  dsimp only at found
  split at found
  · cases found
  · simp only [Option.bind_eq_bind, Option.bind_eq_some_iff] at found
    obtain ⟨value, _, best, among, within⟩ := found
    split at within
    · cases within
    · cases within
      exact measured_known gauge scale _ (Nearest.among_known value _ _ among)

theorem searchIn_known (token : String) (found : profile.searchIn? ctx raw layer = some verdict)
    (shown : verdict.token? = some token) : token ∈ (ctx.scale layer profile.scale).names := by
  unfold searchIn? search? at found
  dsimp only at found
  split at found
  · cases found
  · split at found
    · rename_i exact
      cases found
      cases shown
      exact exactToken_known _ _ exact
    · split at found
      · split at found
        · cases found
        · obtain ⟨nearest, near, rfl⟩ := Option.map_eq_some_iff.mp found
          cases shown
          exact nearToken_known _ _ _ _ near
      · cases found

theorem asFallback_token (profile : Profile) (raw : String) (verdict : Verdict) :
    (profile.asFallback raw verdict).token? = verdict.token? := by
  cases verdict <;> rfl

theorem token_of_miss (missed : verdict.isMiss = true) : verdict.token? = none := by
  cases verdict with
  | miss warning => rfl
  | _ => cases missed

theorem resolve_known (token : String) (shown : (profile.resolve ctx raw).token? = some token) :
    ∃ layer, token ∈ (ctx.scale layer profile.scale).names := by
  have decided := resolve_sound profile ctx raw
  generalize profile.resolve ctx raw = verdict at decided shown
  cases decided with
  | current _ _ search => exact ⟨.current, searchIn_known token search shown⟩
  | fallback _ _ _ _ search =>
    rw [asFallback_token] at shown
    exact ⟨.legacy, searchIn_known token search shown⟩
  | legacy _ _ search => exact ⟨.legacy, searchIn_known token search shown⟩
  | settled => cases shown
  | missed =>
    rw [token_of_miss (missed_isMiss profile ctx _ raw)] at shown
    cases shown

end Profile

theorem resolve_token_known (ctx : Context) (scale : ScaleName) (value token : String)
    (shown : (resolve ctx scale value).token? = some token) : ∃ layer, token ∈ (ctx.scale layer scale).names := by
  rcases resolve_silent_or_profile scale value with silent | ⟨profile, known, _, decides⟩
  · rw [silent] at shown
    cases shown
  · rw [decides] at shown
    obtain ⟨layer, member⟩ := Profile.resolve_known token shown
    rw [Profile.scale_of_known scale profile known] at member
    exact ⟨layer, member⟩

end UtilityCss
