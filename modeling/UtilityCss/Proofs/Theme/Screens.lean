import UtilityCss.Proofs.Entries
import UtilityCss.Proofs.Number.Overflow
import UtilityCss.Proofs.Traversal
import UtilityCss.Theme.Context

namespace UtilityCss
open Text

def screenNumeral (value : String) : String :=
  let body := (lowercase (trim value)).toList
  String.ofList (if "px".toList.isSuffixOf body then body.take (body.length - 2) else body)

def screenNumber? (value : String) : Option Binary64 := Binary64.read? isSpace isDigit (screenNumeral value)

def Endless (value : String) : Prop := Binary64.Unbounded isSpace isDigit (screenNumeral value)

theorem endless_iff (value : String) : Endless value ↔ ∃ negative, screenNumber? value = some (.infinite negative) :=
  (Binary64.read?_infinite_iff _ _ _).symm

def pixelWidth? (value : String) : Option Int := (screenNumber? value).bind (·.truncate?)

theorem screenWidth_of_endless (value : String) (endless : Endless value) :
    screenWidth? value = .error .infiniteInteger := by
  obtain ⟨negative, reads⟩ := (endless_iff value).mp endless
  unfold screenNumber? screenNumeral at reads
  unfold screenWidth?
  simp only [reads]

theorem screenWidth_of_ended (value : String) (ended : ¬ Endless value) :
    screenWidth? value = .ok (pixelWidth? value) := by
  rw [endless_iff] at ended
  unfold pixelWidth?
  unfold screenNumber? screenNumeral at *
  unfold screenWidth?
  dsimp only at *
  split
  · rename_i negative reads
    exact absurd ⟨negative, reads⟩ ended
  · rename_i x _ reads
    rw [reads]
    rfl
  · rename_i reads
    rw [reads]
    rfl

def placeScreen (screens : Entries String Int) (row : String × String) : Except Error (Entries String Int) := do
  match ← screenWidth? row.2 with
  | some width => return Entries.put row.1 width screens
  | none => return screens

theorem placeScreen_returns_iff (screens : Entries String Int) (row : String × String) :
    (∃ after, placeScreen screens row = .ok after) ↔ ∃ width, screenWidth? row.2 = .ok width := by
  unfold placeScreen
  cases screenWidth? row.2 with
  | error fault => exact ⟨nofun, nofun⟩
  | ok width =>
    refine ⟨fun _ => ⟨width, rfl⟩, fun _ => ?_⟩
    cases width with
    | none => exact ⟨screens, rfl⟩
    | some pixels => exact ⟨_, rfl⟩

theorem screensOfScale_run (scale : Scale) : screensOfScale scale = scale.entries.foldlM placeScreen [] := rfl

theorem screensOfScale_returns_iff (scale : Scale) : (∃ screens, screensOfScale scale = .ok screens) ↔
    ∀ row ∈ scale.entries, ∃ width, screenWidth? row.2 = .ok width := by
  rw [screensOfScale_run]
  constructor
  · rintro ⟨screens, returns⟩
    refine foldlM_keeps placeScreen (fun done _ => ∀ row ∈ done, ∃ width, screenWidth? row.2 = .ok width) ?_ []
      scale.entries [] screens nofun returns
    intro done row before after earlier made
    rw [List.forall_mem_append]
    exact ⟨earlier, List.forall_mem_singleton.mpr ((placeScreen_returns_iff before row).mp ⟨after, made⟩)⟩
  · intro each
    exact foldlM_returns placeScreen scale.entries [] fun row member before =>
      (placeScreen_returns_iff before row).mpr (each row member)

def withScreen (screens : Entries String Int) (row : String × String) : Entries String Int :=
  match pixelWidth? row.2 with
  | some width => Entries.put row.1 width screens
  | none => screens

theorem placeScreen_of_ended (screens : Entries String Int) (row : String × String) (ended : ¬ Endless row.2) :
    placeScreen screens row = .ok (withScreen screens row) := by
  unfold placeScreen withScreen
  rw [screenWidth_of_ended row.2 ended]
  cases pixelWidth? row.2 <;> rfl

theorem placeScreen_fault (screens : Entries String Int) (row : String × String) (fault : Error)
    (fails : placeScreen screens row = .error fault) : fault = .infiniteInteger := by
  by_cases endless : Endless row.2
  · unfold placeScreen at fails
    rw [screenWidth_of_endless row.2 endless] at fails
    cases fails
    rfl
  · rw [placeScreen_of_ended screens row endless] at fails
    cases fails

theorem withScreens_eq (rows : List (String × String)) (start : Entries String Int) :
    rows.foldl withScreen start =
      (Entries.readValues pixelWidth? rows).foldl (fun screens row => Entries.put row.1 row.2 screens) start := by
  induction rows generalizing start with
  | nil => rfl
  | cons row rest ih =>
    rw [List.foldl_cons, ih]
    unfold Entries.readValues withScreen
    cases read : pixelWidth? row.2 with
    | none => simp [read]
    | some width => simp [read]

theorem screensOfScale_of_ended (scale : Scale) (ended : ∀ row ∈ scale.entries, ¬ Endless row.2) :
    screensOfScale scale = .ok (Entries.ofList (Entries.readValues pixelWidth? scale.entries)) := by
  rw [screensOfScale_run, foldlM_of_each _ _ scale.entries [] fun row member before =>
    placeScreen_of_ended before row (ended row member), withScreens_eq]
  rfl

-- The names of the rows that have a width, in order, each with the width of its last such row.
structure WidthsOf (rows : List (String × String)) (screens : Entries String Int) : Prop where
  names : Entries.keys screens = (Entries.keys (rows.filter fun row => (pixelWidth? row.2).isSome)).eraseDups
  widths : ∀ name width, (name, width) ∈ screens ↔ ∃ before value after, rows = before ++ (name, value) :: after ∧
    pixelWidth? value = some width ∧ ∀ row ∈ after, row.1 = name → pixelWidth? row.2 = none

theorem widthsOf_read (rows : List (String × String)) :
    WidthsOf rows (Entries.ofList (Entries.readValues pixelWidth? rows)) := by
  have names := Entries.keys_ofList (Entries.readValues pixelWidth? rows)
  have distinct : (Entries.keys (Entries.ofList (Entries.readValues pixelWidth? rows))).Nodup := by
    rw [names]
    exact nodup_eraseDups _
  constructor
  · rw [← Entries.keys_readValues]
    exact names
  · intro name width
    rw [Entries.mem_iff_find? name width _ distinct, Entries.find?_ofList_iff]
    constructor
    · rintro ⟨before, after, split, others⟩
      obtain ⟨earlier, value, later, whole, reads, _, rfl⟩ := (Entries.readValues_split_iff _ _ _ _ _ _).mp split
      refine ⟨earlier, value, later, whole, reads, ?_⟩
      intro row member same
      cases read : pixelWidth? row.2 with
      | none => rfl
      | some other =>
        have listed := (Entries.mem_readValues pixelWidth? later (row.1, other)).mpr ⟨row.2, member, read⟩
        exact absurd same (others _ listed)
    · rintro ⟨earlier, value, later, whole, reads, unread⟩
      refine ⟨_, _, (Entries.readValues_split_iff _ _ _ _ _ _).mpr ⟨earlier, value, later, whole, reads, rfl, rfl⟩, ?_⟩
      intro screen member same
      obtain ⟨own, listed, read⟩ := (Entries.mem_readValues pixelWidth? later screen).mp member
      rw [unread (screen.1, own) listed same] at read
      cases read

-- A layer has widths for all of its screens that have a finite number, unless one has an infinite one.
theorem screenWidths_of_layer (layer : Layer) :
    ((∃ row ∈ layer.screens.entries, Endless row.2) ∧ Layer.screenWidths (some layer) = .error .infiniteInteger) ∨
      ((∀ row ∈ layer.screens.entries, ¬ Endless row.2) ∧
        ∃ screens, Layer.screenWidths (some layer) = .ok screens ∧ WidthsOf layer.screens.entries screens) := by
  by_cases endless : ∃ row ∈ layer.screens.entries, Endless row.2
  · left
    obtain ⟨row, member, here⟩ := endless
    refine ⟨⟨row, member, here⟩, ?_⟩
    refine foldlM_fails placeScreen _ layer.screens.entries row [] member ?_ placeScreen_fault
    intro before
    unfold placeScreen
    rw [screenWidth_of_endless row.2 here]
    rfl
  · right
    have ended : ∀ row ∈ layer.screens.entries, ¬ Endless row.2 :=
      fun row member here => endless ⟨row, member, here⟩
    exact ⟨ended, _, screensOfScale_of_ended layer.screens ended, widthsOf_read _⟩

theorem screenWidths_fail_at_infinity :
    let layer (value : String) : Layer := { Layer.empty with screens := ⟨[("md", "768px"), ("wide", value)]⟩ }
    Layer.screenWidths (some (layer "infpx")) = .error .infiniteInteger ∧
      Layer.screenWidths (some (layer "1e999px")) = .error .infiniteInteger ∧
      Layer.screenWidths (some (layer "nanpx")) = .ok [("md", 768)] := by
  decide +kernel

end UtilityCss
