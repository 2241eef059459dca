import UtilityCss.Proofs.Entries
import UtilityCss.Proofs.Traversal
import UtilityCss.Settings.Read

namespace UtilityCss

namespace Settings

-- The issues of a mapping are those of its entries, each taken as a mapping of its own, up to their order.
def Entrywise (issues : List (Scalar × Data) → List Issue) : Prop :=
  ∀ entries, (entries.map Prod.fst).Nodup → (issues entries).Perm (entries.flatMap fun entry => issues [entry])

theorem Entrywise.append {first second : List (Scalar × Data) → List Issue} (one : Entrywise first)
    (other : Entrywise second) : Entrywise fun entries => first entries ++ second entries := by
  intro entries distinct
  exact ((one entries distinct).append (other entries distinct)).trans (List.flatMap_append_perm entries _ _)

theorem Entrywise.map {issues : List (Scalar × Data) → List Issue} (each : Entrywise issues) (place : Issue → Issue) :
    Entrywise fun entries => (issues entries).map place := by
  intro entries distinct
  have moved := (each entries distinct).map place
  rwa [List.map_flatMap] at moved

section
variable {α : Type} (name : String) (standIn : α) (read : Data → Checked α)

theorem field_known (entries : List (Scalar × Data)) (data : Data) (distinct : (entries.map Prod.fst).Nodup)
    (given : (.text name, data) ∈ entries) :
    field name standIn read entries = field name standIn read [(.text name, data)] := by
  have found := (Entries.mem_iff_find? _ data entries distinct).mp given
  unfold field
  rw [found, Entries.find?, if_pos rfl]

theorem field_absent (entries : List (Scalar × Data)) (absent : .text name ∉ entries.map Prod.fst) :
    field name standIn read entries = .valid standIn := by
  have missed : Entries.find? (.text name) entries = none := by
    rw [← Option.not_isSome_iff_eq_none, Entries.find?_isSome_iff]
    exact absent
  unfold field
  rw [missed]

theorem field_entrywise : Entrywise fun entries => (field name standIn read entries).issues := by
  intro entries distinct
  beta_reduce
  induction entries with
  | nil => exact .refl _
  | cons first rest ih =>
    obtain ⟨key, data⟩ := first
    obtain ⟨fresh, apart⟩ := List.nodup_cons.mp distinct
    have others := ih apart
    rw [List.flatMap_cons]
    by_cases named : key = .text name
    · subst named
      rw [field_known name standIn read _ data distinct List.mem_cons_self]
      rw [field_absent name standIn read rest fresh] at others
      have behind := others.append_left (field name standIn read [(.text name, data)]).issues
      rwa [Checked.valid, List.append_nil] at behind
    · have passed (tail : List (Scalar × Data)) :
          field name standIn read ((key, data) :: tail) = field name standIn read tail := by
        unfold field
        rw [Entries.find?, if_neg named]
      rw [passed rest, passed []]
      exact others

end

theorem strayIssues_entrywise (known : List String) : Entrywise (strayIssues known) := by
  intro entries distinct
  clear distinct
  induction entries with
  | nil => exact .refl _
  | cons first rest ih =>
    have apart : strayIssues known (first :: rest) = strayIssues known [first] ++ strayIssues known rest :=
      List.filterMap_append (l := [first])
    rw [List.flatMap_cons, apart]
    exact ih.append_left _

theorem readFields_entrywise : Entrywise fun entries => (readFields entries).issues :=
  ((((((((field_entrywise _ _ readVersion).append (field_entrywise _ _ readBool)).append
    (field_entrywise _ _ readBool)).append (field_entrywise _ _ readThresholds)).append
    (field_entrywise _ _ readScreens)).append (field_entrywise _ _ readBool)).append
    (field_entrywise _ _ readScales)).append (field_entrywise _ _ readScales)).append (strayIssues_entrywise fieldNames)

theorem readThresholds_entrywise : Entrywise fun rows => (readThresholds (.mapping rows)).issues :=
  (((field_entrywise _ _ readThreshold).append (field_entrywise _ _ readThreshold)).append
    (field_entrywise _ _ readThreshold)).append (strayIssues_entrywise thresholdFields)

theorem readScaleEntries_entrywise : Entrywise fun rows => (readScaleEntries rows).issues :=
  ((((((field_entrywise _ _ (readSection readText)).append (field_entrywise _ _ (readSection readColor))).append
    (field_entrywise _ _ (readSection readSize))).append (field_entrywise _ _ (readSection readText))).append
    (field_entrywise _ _ (readSection readText))).append (field_entrywise _ _ (readSection readText))).append
    (strayIssues_entrywise (ScaleName.all.map (·.text)))

theorem readScreens_entrywise : Entrywise fun rows => (readScreens (.mapping rows)).issues := by
  intro rows _
  simp [readScreens, List.flatMap_map]

-- The eight settings. What is true of reading each of them is stated once, over this type.
inductive Field
  | version
  | strict
  | approximate
  | thresholds
  | screens
  | cache
  | legacy
  | current
deriving DecidableEq, Repr

namespace Field

def name : Field → String
  | version => "version"
  | strict => "strict"
  | approximate => "approximate"
  | thresholds => "thresholds"
  | screens => "screens"
  | cache => "cache"
  | legacy => "legacy"
  | current => "current"

def Value : Field → Type
  | version => LayerName
  | strict => Bool
  | approximate => Bool
  | thresholds => Thresholds
  | screens => Entries String Int
  | cache => Bool
  | legacy => Option ScaleSettings
  | current => Option ScaleSettings

def get (settings : Settings) : (field : Field) → field.Value
  | version => settings.version
  | strict => settings.strict
  | approximate => settings.approximate
  | thresholds => settings.thresholds
  | screens => settings.screens
  | cache => settings.cache
  | legacy => settings.legacy
  | current => settings.current

def read : (field : Field) → Data → Checked field.Value
  | version => readVersion
  | strict => readBool
  | approximate => readBool
  | thresholds => readThresholds
  | screens => readScreens
  | cache => readBool
  | legacy => readScales
  | current => readScales

end Field

theorem readFields_get (entries : List (Scalar × Data)) (one : Field) : one.get (readFields entries).value =
    (field one.name (one.get standard) one.read entries).value := by
  cases one <;> rfl

theorem ofData_mapping (entries : List (Scalar × Data)) : ofData (.mapping entries) =
    if (readFields entries).issues = [] then .ok (readFields entries).value
      else .error (readFields entries).issues := by
  simp only [ofData, Checked.toExcept, Checked.isValid, List.isEmpty_iff]

def issuesOf : Except (List Issue) Settings → List Issue
  | .ok _ => []
  | .error issues => issues

theorem issuesOf_mapping (entries : List (Scalar × Data)) :
    issuesOf (ofData (.mapping entries)) = (readFields entries).issues := by
  rw [ofData_mapping]
  split
  · rename_i clean
    rw [clean]
    rfl
  · rfl

theorem ofData_fails_iff (entries : List (Scalar × Data)) :
    (∃ issues, ofData (.mapping entries) = .error issues) ↔ (readFields entries).issues ≠ [] := by
  rw [ofData_mapping]
  split <;> simp [*]

theorem ofData_returns_iff (entries : List (Scalar × Data)) (settings : Settings) :
    ofData (.mapping entries) = .ok settings ↔
      (readFields entries).issues = [] ∧ (readFields entries).value = settings := by
  rw [ofData_mapping]
  split <;> simp [*]

theorem issuesOf_field (one : Field) (data : Data) : issuesOf (ofData (.mapping [(.text one.name, data)])) =
    (one.read data).issues.map (Issue.under one.name) := by
  rw [issuesOf_mapping]
  cases one <;> simp [readFields, field, Entries.find?, Field.name, Field.read, Checked.valid, Checked.under,
    strayIssues, strayIssue, fieldNames]

def Field.sections : List Field := [.thresholds, .screens, .legacy, .current]

theorem section_entrywise (one : Field) (listed : one ∈ Field.sections) :
    Entrywise fun rows => (one.read (.mapping rows)).issues := by
  simp only [Field.sections, List.mem_cons, List.not_mem_nil, or_false] at listed
  rcases listed with rfl | rfl | rfl | rfl
  · exact readThresholds_entrywise
  · exact readScreens_entrywise
  · exact readScaleEntries_entrywise
  · exact readScaleEntries_entrywise

-- Nothing that is wrong with one entry hides what is wrong with another, and no value depends on another entry.
theorem ofData_entrywise (entries : List (Scalar × Data)) (distinct : (entries.map Prod.fst).Nodup) :
    ((∃ issues, ofData (.mapping entries) = .error issues) ↔
      ∃ entry ∈ entries, ∃ issues, ofData (.mapping [entry]) = .error issues) ∧
    (issuesOf (ofData (.mapping entries))).Perm
      (entries.flatMap fun entry => issuesOf (ofData (.mapping [entry]))) ∧
    (∀ settings, ofData (.mapping entries) = .ok settings → ∀ one : Field,
      (∀ data, (.text one.name, data) ∈ entries →
        ∃ own, ofData (.mapping [(.text one.name, data)]) = .ok own ∧ one.get settings = one.get own) ∧
      (.text one.name ∉ entries.map Prod.fst → one.get settings = one.get standard)) ∧
    ∀ one ∈ Field.sections, ∀ rows : List (Scalar × Data), (rows.map Prod.fst).Nodup →
      (issuesOf (ofData (.mapping [(.text one.name, .mapping rows)]))).Perm
        (rows.flatMap fun row => issuesOf (ofData (.mapping [(.text one.name, .mapping [row])]))) := by
  have issues := readFields_entrywise entries distinct
  have clean : (readFields entries).issues = [] ↔ ∀ entry ∈ entries, (readFields [entry]).issues = [] := by
    rw [← List.flatMap_eq_nil_iff]
    exact ⟨fun none => List.Perm.eq_nil (none ▸ issues.symm), fun none => List.Perm.eq_nil (none ▸ issues)⟩
  refine ⟨?_, ?_, ?_, ?_⟩
  · simp only [ofData_fails_iff, ne_eq, clean, not_forall, exists_prop]
  · simp only [issuesOf_mapping]
    exact issues
  · intro settings returns one
    obtain ⟨none, rfl⟩ := (ofData_returns_iff entries settings).mp returns
    rw [readFields_get]
    refine ⟨fun data given => ⟨_, (ofData_returns_iff _ _).mpr ⟨clean.mp none _ given, rfl⟩, ?_⟩, fun absent => ?_⟩
    · rw [readFields_get, field_known _ _ _ entries data distinct given]
    · rw [field_absent _ _ _ entries absent]
      rfl
  · intro one listed rows apart
    simp only [issuesOf_field]
    exact (section_entrywise one listed).map (Issue.under one.name) rows apart

theorem ofData_entrywise_of_faults :
    let thresholds : List (Scalar × Data) := [(.text "font_px", .int (-1)), (.text "gap_px", .int 1)]
    let faulty : List (Scalar × Data) := [(.text "thresholds", .mapping thresholds), (.text "cache", .bool false),
      (.text "verbose", .null), (.text "version", .text "v9"), (.text "current", .mapping [(.text "colors", .int 3),
      (.text "spacing", .mapping [(.int 4, .null)])])]
    let faults : List Issue := [⟨["thresholds", "font_px"], .belowZero⟩, ⟨["thresholds", "gap_px"], .unknownKey⟩,
      ⟨["verbose"], .unknownKey⟩, ⟨["version"], .unknownVersion "v9"⟩, ⟨["current", "spacing", "4"], .notText⟩,
      ⟨["current", "colors"], .notMapping⟩]
    let screens : Data := .mapping [(.text "tablet", .int 700)]
    let fine : List (Scalar × Data) := [(.text "screens", screens), (.text "version", .text " V3 ")]
    (faulty.map Prod.fst).Nodup ∧ (fine.map Prod.fst).Nodup ∧ (thresholds.map Prod.fst).Nodup ∧
      (issuesOf (ofData (.mapping faulty))).Perm faults ∧
      (∃ settings own, ofData (.mapping fine) = .ok settings ∧
        ofData (.mapping [(.text "screens", screens)]) = .ok own ∧ settings.screens = own.screens ∧
        own.screens = [("tablet", 700)] ∧ settings.cache = standard.cache) ∧
      (issuesOf (ofData (.mapping [(.text "thresholds", .mapping thresholds)]))).Perm (faults.take 2) := by
  intro thresholds faulty faults screens fine
  have apart : (faulty.map Prod.fst).Nodup := by decide
  have distinct : (fine.map Prod.fst).Nodup := by decide
  have two : (thresholds.map Prod.fst).Nodup := by decide
  obtain ⟨_, each, _, parts⟩ := ofData_entrywise faulty apart
  obtain ⟨_, _, values, _⟩ := ofData_entrywise fine distinct
  have listed : (faulty.flatMap fun entry => issuesOf (ofData (.mapping [entry]))) = faults := by decide +kernel
  have nested : (thresholds.flatMap fun row => issuesOf (ofData (.mapping [(.text "thresholds", .mapping [row])]))) =
      faults.take 2 := by
    decide +kernel
  have makes : (ofData (.mapping fine)).map (·.screens) = .ok [("tablet", 700)] := by decide +kernel
  obtain ⟨settings, returns, read⟩ := (map_eq_ok_iff _ _ _).mp makes
  obtain ⟨own, alone, same⟩ := (values settings returns .screens).1 screens List.mem_cons_self
  have left := (values settings returns .cache).2 (by decide)
  have inside := parts .thresholds (by decide) thresholds two
  rw [listed] at each
  exact ⟨apart, distinct, two, each, ⟨settings, own, returns, alone, same, same.symm.trans read, left⟩,
    inside.trans (.of_eq nested)⟩

end Settings
end UtilityCss
