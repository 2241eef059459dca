import UtilityCss.Proofs.Entries
import UtilityCss.Proofs.Number.Comparison
import UtilityCss.Resolve.Search

namespace UtilityCss

namespace Nearest

variable {value : Binary64}

-- What is true of the best entry so far, after any number of entries: no other is nearer, and none before it
-- is as near.
structure Leads (value : Binary64) (entries : List (String × Binary64)) (nearest : Nearest) : Prop where
  distance : nearest.distance = (value - nearest.value).magnitude
  least : ∀ entry ∈ entries, nearest.distance.atMost (candidate value entry).distance = true
  first : ∃ before after, entries = before ++ (nearest.token, nearest.value) :: after ∧
    ∀ entry ∈ before, nearest.distance.lessThan (candidate value entry).distance = true

theorem candidate_leads (entry : String × Binary64) (number : (candidate value entry).distance ≠ .nan) :
    Leads value [entry] (candidate value entry) := by
  refine ⟨rfl, ?_, [], [], rfl, by simp⟩
  simpa using Binary64.atMost_refl number

theorem Leads.next {done : List (String × Binary64)} {best : Nearest} (leads : Leads value done best)
    (entry : String × Binary64) (number : (candidate value entry).distance ≠ .nan) :
    Leads value (done ++ [entry]) (closer best (candidate value entry)) := by
  -- A strictly nearer entry leads over all before it. Otherwise the first one at the least distance stays.
  unfold closer
  cases nearer : (candidate value entry).distance.lessThan best.distance with
  | true =>
    have ahead : ∀ other ∈ done,
        (candidate value entry).distance.lessThan (candidate value other).distance = true :=
      fun other member => Binary64.lessThan_of_lessThan_of_atMost nearer (leads.least other member)
    refine ⟨rfl, ?_, done, [], rfl, ahead⟩
    intro other member
    rcases List.mem_append.mp member with earlier | last
    · exact Binary64.atMost_of_lessThan (ahead other earlier)
    · rw [List.mem_singleton.mp last]
      exact Binary64.atMost_refl number
  | false =>
    obtain ⟨distance, least, before, after, rfl, farther⟩ := leads
    have measured := Binary64.number_of_atMost (least (best.token, best.value) (by simp))
    refine ⟨distance, ?_, before, after ++ [entry], by simp, farther⟩
    intro other member
    rcases List.mem_append.mp member with earlier | last
    · exact least other earlier
    · rw [List.mem_singleton.mp last]
      exact (Binary64.not_lessThan_iff number measured).mp nearer

theorem among_leads (entries : List (String × Binary64)) (nearest : Nearest)
    (numbers : ∀ entry ∈ entries, (candidate value entry).distance ≠ .nan)
    (found : among? value entries = some nearest) : Leads value entries nearest := by
  cases entries with
  | nil => cases found
  | cons first rest =>
    cases found
    obtain ⟨number, others⟩ := List.forall_mem_cons.mp numbers
    suffices run : ∀ done best, Leads value done best →
        Leads value (done ++ rest) (rest.foldl (fun best entry => closer best (candidate value entry)) best) from
      run [first] _ (candidate_leads first number)
    clear numbers
    induction rest with
    | nil =>
      intro done best leads
      simpa using leads
    | cons entry rest ih =>
      intro done best leads
      obtain ⟨here, later⟩ := List.forall_mem_cons.mp others
      simpa using ih later _ _ (leads.next entry here)

theorem among_of_mem (value : Binary64) (entries : List (String × Binary64)) (entry : String × Binary64)
    (member : entry ∈ entries) : ∃ nearest, among? value entries = some nearest := by
  cases entries with
  | nil => cases member
  | cons first rest => exact ⟨_, rfl⟩

end Nearest

-- How far an entry is from a measured value. One that cannot be measured is at no distance.
def Gauge.distance? (gauge : Gauge) (value : Binary64) (entry : String × String) : Option Binary64 :=
  (gauge.measure? entry.2).map fun measure => (value - measure).magnitude

-- The first entry of a scale at the least distance from a value.
structure Scale.NearestTo (scale : Scale) (gauge : Gauge) (value : Binary64) (token : String) (distance : Binary64) :
    Prop where
  least : ∀ entry ∈ scale.entries, ∀ other, gauge.distance? value entry = some other → distance.atMost other = true
  first : ∃ before own after, scale.entries = before ++ (token, own) :: after ∧
    gauge.distance? value (token, own) = some distance ∧
    ∀ entry ∈ before, ∀ other, gauge.distance? value entry = some other → distance.lessThan other = true

theorem Scale.NearestTo.number {scale : Scale} {gauge : Gauge} {value distance : Binary64} {token : String}
    (nearest : scale.NearestTo gauge value token distance) : distance ≠ .nan := by
  obtain ⟨before, own, after, whole, far, _⟩ := nearest.first
  exact Binary64.number_of_atMost (nearest.least (token, own) (by simp [whole]) distance far)

-- Infinite measures have a difference from each other that is no number.
def Gauge.Comparable (gauge : Gauge) (scale : Scale) (raw : String) : Prop :=
  ∀ value, gauge.measure? raw = some value → ∀ entry ∈ scale.entries, gauge.distance? value entry ≠ some .nan

namespace Profile

variable {profile : Profile} {gauge : Gauge} {thresholds : Thresholds} {raw : String} {scale : Scale}

theorem measured_of_distinct (gauge : Gauge) (scale : Scale) (distinct : scale.names.Nodup) :
    measured gauge scale = Entries.readValues gauge.measure? scale.entries := by
  change Entries.ofList (Entries.readValues gauge.measure? scale.entries) = _
  apply Entries.ofListBy_apart
  have apart : (Entries.keys (Entries.readValues gauge.measure? scale.entries)).Nodup := by
    rw [Entries.keys_readValues]
    exact distinct.sublist (List.filter_sublist.map _)
  rw [Entries.keys, nodup_map_iff] at apart
  exact apart.imp fun differ => decide_eq_false differ

theorem measured_numbers (distinct : scale.names.Nodup) {value : Binary64}
    (numbers : ∀ entry ∈ scale.entries, gauge.distance? value entry ≠ some .nan) :
    ∀ row ∈ measured gauge scale, (Nearest.candidate value row).distance ≠ .nan := by
  intro row member
  rw [measured_of_distinct gauge scale distinct] at member
  obtain ⟨own, listed, here⟩ := (Entries.mem_readValues _ _ row).mp member
  simpa [Gauge.distance?, Nearest.candidate, here] using numbers (row.1, own) listed

theorem nearestTo_of_leads (distinct : scale.names.Nodup) (value : Binary64) (nearest : Nearest)
    (leads : Nearest.Leads value (measured gauge scale) nearest) :
    scale.NearestTo gauge value nearest.token nearest.distance := by
  rw [measured_of_distinct gauge scale distinct] at leads
  have row (entries : Entries String String) (entry : String × String) (member : entry ∈ entries) (measure : Binary64)
      (here : gauge.measure? entry.2 = some measure) :
      (entry.1, measure) ∈ Entries.readValues gauge.measure? entries :=
    (Entries.mem_readValues _ _ _).mpr ⟨entry.2, member, here⟩
  constructor
  · intro entry member other far
    obtain ⟨measure, here, rfl⟩ := Option.map_eq_some_iff.mp far
    exact leads.least _ (row _ entry member measure here)
  · obtain ⟨before, after, place, farther⟩ := leads.first
    obtain ⟨earlier, own, later, whole, here, rfl, _⟩ := (Entries.readValues_split_iff _ _ _ _ _ _).mp place
    refine ⟨earlier, own, later, whole, ?_, ?_⟩
    · rw [Gauge.distance?, here, leads.distance]
      rfl
    · intro entry member other far
      obtain ⟨measure, there, rfl⟩ := Option.map_eq_some_iff.mp far
      exact farther _ (row _ entry member measure there)

theorem nearToken_sound (distinct : scale.names.Nodup) (bounded : gauge.threshold thresholds ≠ .nan)
    (comparable : gauge.Comparable scale raw) {nearest : Nearest}
    (found : nearToken? gauge thresholds raw scale = some nearest) :
    Binary64.zero.lessThan (gauge.threshold thresholds) = true ∧
      nearest.distance.atMost (gauge.threshold thresholds) = true ∧
      ∃ value, gauge.measure? raw = some value ∧ scale.NearestTo gauge value nearest.token nearest.distance := by
  unfold nearToken? at found
  dsimp only at found
  split at found
  · cases found
  · rename_i positive
    simp only [Option.bind_eq_bind, Option.bind_eq_some_iff] at found
    obtain ⟨value, own, best, among, within⟩ := found
    split at within
    · cases within
    · rename_i near
      cases within
      have nearestTo := nearestTo_of_leads distinct value nearest
        (Nearest.among_leads _ _ (measured_numbers distinct (comparable value own)) among)
      have zero : Binary64.zero ≠ .nan := nofun
      exact ⟨(Binary64.not_atMost_iff bounded zero).mp (by simpa using positive),
        (Binary64.not_lessThan_iff bounded nearestTo.number).mp (by simpa using near), value, own, nearestTo⟩

theorem nearToken_complete (distinct : scale.names.Nodup) (comparable : gauge.Comparable scale raw)
    (positive : Binary64.zero.lessThan (gauge.threshold thresholds) = true) (value : Binary64)
    (own : gauge.measure? raw = some value) (entry : String × String) (member : entry ∈ scale.entries)
    (distance : Binary64) (far : gauge.distance? value entry = some distance)
    (near : distance.atMost (gauge.threshold thresholds) = true) :
    ∃ nearest, nearToken? gauge thresholds raw scale = some nearest := by
  obtain ⟨measure, measured, rfl⟩ := Option.map_eq_some_iff.mp far
  have listed : (entry.1, measure) ∈ Profile.measured gauge scale := by
    rw [measured_of_distinct gauge scale distinct, Entries.mem_readValues]
    exact ⟨entry.2, member, measured⟩
  obtain ⟨nearest, among⟩ := Nearest.among_of_mem value _ _ listed
  have nearestTo := nearestTo_of_leads distinct value nearest
    (Nearest.among_leads _ _ (measured_numbers distinct (comparable value own)) among)
  have within := Binary64.atMost_trans (nearestTo.least entry member _ far) near
  refine ⟨nearest, ?_⟩
  unfold nearToken?
  simp [Binary64.not_atMost_of_lessThan positive, own, among, Binary64.not_lessThan_of_atMost within]

theorem search_of_unlike (profile : Profile) (gauge : Gauge) (gauged : profile.gauge? = some gauge) (scale : Scale)
    (ctx : Context) (raw : String) (layer : LayerName)
    (unlike : ∀ entry ∈ scale.entries, profile.canonical entry.2 ≠ profile.canonical raw) :
    profile.search? ctx raw scale layer =
      if ctx.approximate && !ctx.strict then
        (nearToken? gauge ctx.thresholds raw scale).map fun nearest =>
          .approximate nearest.token nearest.distance layer false
            (profile.approximateWarning gauge raw nearest.token nearest.distance)
      else none := by
  have missing : profile.exactToken? raw scale = none := by
    rw [exactToken?, Option.map_eq_none_iff, List.find?_eq_none]
    intro entry member
    simpa using unlike entry member
  simp only [search?, missing, gauged]

-- A search without an exact answer gives a near one exactly if it may and any entry is near enough. It never gives
-- another, and the one it gives is the first entry at the least distance.
theorem search_near_iff (profile : Profile) (gauge : Gauge) (gauged : profile.gauge? = some gauge) (scale : Scale)
    (distinct : scale.names.Nodup) (ctx : Context) (bounded : gauge.threshold ctx.thresholds ≠ .nan) (raw : String)
    (comparable : gauge.Comparable scale raw)
    (unlike : ∀ entry ∈ scale.entries, profile.canonical entry.2 ≠ profile.canonical raw) (layer : LayerName) :
    ((∃ token distance warning,
        profile.search? ctx raw scale layer = some (.approximate token distance layer false warning)) ↔
      ctx.approximate = true ∧ ctx.strict = false ∧
        Binary64.zero.lessThan (gauge.threshold ctx.thresholds) = true ∧
        ∃ value, gauge.measure? raw = some value ∧ ∃ entry ∈ scale.entries, ∃ distance,
          gauge.distance? value entry = some distance ∧
            distance.atMost (gauge.threshold ctx.thresholds) = true) ∧
    ∀ verdict, profile.search? ctx raw scale layer = some verdict →
      ∃ value token distance, gauge.measure? raw = some value ∧ scale.NearestTo gauge value token distance ∧
        verdict = .approximate token distance layer false (profile.approximateWarning gauge raw token distance) := by
  -- Where no entry has the canonical form of the value, the near part of the search is all of it.
  rw [search_of_unlike profile gauge gauged scale ctx raw layer unlike]
  refine ⟨⟨?_, ?_⟩, ?_⟩
  · rintro ⟨token, distance, warning, answered⟩
    split at answered
    · rename_i lenient
      obtain ⟨nearest, found, _⟩ := Option.map_eq_some_iff.mp answered
      obtain ⟨positive, within, value, own, nearestTo⟩ := nearToken_sound distinct bounded comparable found
      obtain ⟨before, text, after, whole, far, _⟩ := nearestTo.first
      simp only [Bool.and_eq_true, Bool.not_eq_true'] at lenient
      exact ⟨lenient.1, lenient.2, positive, value, own, (nearest.token, text), by simp [whole], _, far, within⟩
    · cases answered
  · rintro ⟨approximate, lenient, positive, value, own, entry, member, distance, far, near⟩
    obtain ⟨nearest, found⟩ :=
      nearToken_complete distinct comparable positive value own entry member distance far near
    simp [approximate, lenient, found]
  · intro verdict answered
    split at answered
    · obtain ⟨nearest, found, rfl⟩ := Option.map_eq_some_iff.mp answered
      obtain ⟨_, _, value, own, nearestTo⟩ := nearToken_sound distinct bounded comparable found
      exact ⟨value, nearest.token, nearest.distance, own, nearestTo, rfl⟩
    · cases answered

theorem search_near_first_of_two :
    let gauge := pixelGauge (·.spacing)
    let profile : Profile := ⟨.spacing, "spacing", Css.canonical, some gauge⟩
    let scale : Scale := ⟨[("half", "50%"), ("5", "20px"), ("2", "0.5rem"), ("4", "16px")]⟩
    let ctx : Context :=
      ⟨none, none, .current, false, true, ⟨4, 0, 0⟩, standardScreens, false⟩
    scale.names.Nodup ∧ gauge.threshold ctx.thresholds ≠ .nan ∧ gauge.Comparable scale "12px" ∧
      (∀ entry ∈ scale.entries, profile.canonical entry.2 ≠ profile.canonical "12px") ∧
      profile.search? ctx "12px" scale .legacy =
        some (.approximate "2" 4 .legacy false "approximate: spacing 12px → 2 (4.0px difference)") ∧
      scale.NearestTo gauge 12 "2" 4 := by
  intro gauge profile scale ctx
  have distinct : scale.names.Nodup := by decide
  have bounded : gauge.threshold ctx.thresholds ≠ .nan := by decide +kernel
  have own : gauge.measure? "12px" = some 12 := by decide +kernel
  have comparable : gauge.Comparable scale "12px" := by
    intro value measured
    obtain rfl : 12 = value := Option.some.inj (own.symm.trans measured)
    decide +kernel
  have unlike : ∀ entry ∈ scale.entries, profile.canonical entry.2 ≠ profile.canonical "12px" := by decide +kernel
  have answer : profile.search? ctx "12px" scale .legacy =
      some (.approximate "2" 4 .legacy false "approximate: spacing 12px → 2 (4.0px difference)") := by
    decide +kernel
  obtain ⟨_, nearest⟩ := search_near_iff profile gauge rfl scale distinct ctx bounded "12px" comparable unlike .legacy
  obtain ⟨value, token, distance, measured, nearestTo, same⟩ := nearest _ answer
  obtain rfl : 12 = value := Option.some.inj (own.symm.trans measured)
  simp only [Verdict.approximate.injEq] at same
  obtain ⟨rfl, rfl, _⟩ := same
  exact ⟨distinct, bounded, comparable, unlike, answer, nearestTo⟩

end Profile
end UtilityCss
