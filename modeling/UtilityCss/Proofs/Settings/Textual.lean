import UtilityCss.Proofs.Settings.Texts

namespace UtilityCss

namespace Data

def ofTexts (rows : Entries String Data) : Data := .mapping (rows.map fun row => (.text row.1, row.2))

-- No number is left, and every key of a mapping is a text that no other key of it has.
inductive Textual : Data → Prop
  | null : Textual .null
  | bool (b : Bool) : Textual (.bool b)
  | text (s : String) : Textual (.text s)
  | list (items : List Data) (each : ∀ item ∈ items, Textual item) : Textual (.list items)
  | mapping (rows : Entries String Data) (distinct : (Entries.keys rows).Nodup) (each : ∀ row ∈ rows, Textual row.2) :
      Textual (ofTexts rows)

theorem stringifiedItems_eq (items : List Data) : stringifiedItems items = items.map stringified := by
  induction items with
  | nil => rfl
  | cons item rest ih => rw [stringifiedItems, ih, List.map_cons]

theorem areWritable_iff (items : List Data) : areWritable items = true ↔ ∀ item ∈ items, item.isWritable = true := by
  induction items with
  | nil => simp [areWritable]
  | cons item rest ih => simp [areWritable, ih]

theorem areWritableEntries_iff (rows : List (Scalar × Data)) :
    areWritableEntries rows = true ↔ ∀ row ∈ rows, row.1.isWritable = true ∧ row.2.isWritable = true := by
  induction rows with
  | nil => simp [areWritableEntries]
  | cons row rest ih =>
    obtain ⟨key, value⟩ := row
    simp [areWritableEntries, ih]

def merged (rows : List (Scalar × Data)) : Entries String Data :=
  Entries.ofList (rows.map fun row => (row.1.string, row.2.stringified))

theorem stringified_merged (rows : List (Scalar × Data)) :
    (Data.mapping rows).stringified = ofTexts (merged rows) := by
  rw [stringified_mapping, ofTexts, merged, ← Entries.ofListBy_named _ _ Scalar.sameKey_text, List.map_map]
  rfl

theorem keys_merged (rows : List (Scalar × Data)) :
    Entries.keys (merged rows) = (rows.map (·.1.string)).eraseDups := by
  rw [merged, Entries.keys_ofList, List.map_map]
  rfl

theorem find?_merged_iff (rows : List (Scalar × Data)) (key : String) (value : Data) :
    Entries.find? key (merged rows) = some value ↔ ∃ before own after, rows = before ++ own :: after ∧
      own.1.string = key ∧ own.2.stringified = value ∧ ∀ row ∈ after, row.1.string ≠ key := by
  rw [merged, Entries.find?_ofList_iff]
  constructor
  · rintro ⟨_, _, split, others⟩
    obtain ⟨before, rest, rfl, rfl, tail⟩ := List.map_eq_append_iff.mp split
    obtain ⟨own, after, rfl, here, rfl⟩ := List.map_eq_cons_iff.mp tail
    obtain ⟨named, valued⟩ := Prod.mk.inj here
    exact ⟨before, own, after, rfl, named, valued, fun row member => others _ (List.mem_map_of_mem member)⟩
  · rintro ⟨before, own, after, rfl, rfl, rfl, others⟩
    refine ⟨_, _, List.map_append, ?_⟩
    intro pair member
    obtain ⟨row, known, rfl⟩ := List.mem_map.mp member
    exact others row known

example : (Data.mapping [(.int 4, .int 1), (.null, .bool true), (.text "4", .list [.int 2])]).stringified.shown =
    "\x7b'4': ['2'], 'None': True\x7d" := by decide +kernel

mutual
theorem stringified_textual : (data : Data) → data.stringified.Textual
  | .scalar .null => .null
  | .scalar (.bool b) => .bool b
  | .scalar (.int _) => .text _
  | .scalar (.float _) => .text _
  | .scalar (.text s) => .text s
  | .list items => by
    rw [stringified, stringifiedItems_eq]
    exact .list _ (List.forall_mem_map.mpr (items_textual items))
  | .mapping rows => by
    rw [stringified_merged]
    refine .mapping _ (keys_merged rows ▸ nodup_eraseDups _) fun row member => ?_
    refine (Entries.forall_ofListBy (fun _ => True) Textual _ _ ?_ row member).2
    exact List.forall_mem_map.mpr fun own known => ⟨trivial, rows_textual rows own known⟩
theorem items_textual : (items : List Data) → ∀ item ∈ items, item.stringified.Textual
  | [] => nofun
  | first :: rest => List.forall_mem_cons.mpr ⟨stringified_textual first, items_textual rest⟩
theorem rows_textual : (rows : List (Scalar × Data)) → ∀ row ∈ rows, row.2.stringified.Textual
  | [] => nofun
  | (_, value) :: rest => List.forall_mem_cons.mpr ⟨stringified_textual value, rows_textual rest⟩
end

theorem stringified_of_textual (data : Data) (textual : data.Textual) : data.stringified = data := by
  induction textual with
  | null => rfl
  | bool b => rfl
  | text s => rfl
  | list items each ih =>
    rw [stringified, stringifiedItems_eq]
    exact congrArg Data.list ((List.map_congr_left ih).trans (List.map_id items))
  | mapping rows distinct each ih =>
    have apart : ((rows.map fun row => (Scalar.text row.1, row.2)).map (·.1.string)).Nodup := by
      rwa [List.map_map]
    rw [ofTexts, stringified_mapping, texts_of_distinct _ apart, List.map_map]
    refine congrArg Data.mapping (List.map_congr_left fun row member => ?_)
    rw [Function.comp_apply, ih row member]
    rfl

theorem isWritable_of_textual (data : Data) (textual : data.Textual) : data.isWritable = true := by
  induction textual with
  | null => rfl
  | bool b => rfl
  | text s => rfl
  | list items each ih => exact (areWritable_iff items).mpr ih
  | mapping rows distinct each ih =>
    refine (areWritableEntries_iff _).mpr (List.forall_mem_map.mpr fun row member => ⟨rfl, ih row member⟩)

theorem stringified_idem (data : Data) : data.stringified.stringified = data.stringified :=
  stringified_of_textual _ (stringified_textual data)

def restated (data : Data) : Data := if data.isWritable then data.stringified else data

def reviseRows (change : Scalar → Data → Data) : Data → Data
  | .mapping rows => .mapping (Entries.mapRows change rows)
  | data => data

end Data

namespace Settings

def sectionKeys : List Scalar := [.text "legacy", .text "current"]

def restateField (chosen : Scalar → Bool) (key : Scalar) (value : Data) : Data :=
  if chosen key then value.restated else value

def restateSection (chosen : Scalar → Scalar → Bool) (key : Scalar) (value : Data) : Data :=
  if key ∈ sectionKeys then value.reviseRows (restateField (chosen key)) else value

def restateSections (chosen : Scalar → Scalar → Bool) (data : Data) : Data := data.reviseRows (restateSection chosen)

section
variable {α : Type} (name : String) (standIn : α) (read : Data → Checked α)

theorem field_mapRows (change : Scalar → Data → Data) (alike : ∀ data, read (change (.text name) data) = read data)
    (entries : List (Scalar × Data)) :
    field name standIn read (Entries.mapRows change entries) = field name standIn read entries := by
  unfold field
  rw [Entries.find?_mapRows]
  cases Entries.find? (.text name) entries with
  | none => rfl
  | some data => exact congrArg (Checked.under name) (alike data)

theorem readSection_restated (data : Data) : readSection read data.restated = readSection read data := by
  unfold Data.restated
  split
  · rename_i writable
    have again := Data.isWritable_of_textual _ (Data.stringified_textual data)
    rw [readSection, if_pos again, Data.stringified_idem, readSection, if_pos writable]
  · rfl

end

theorem scaleField_restated {α : Type} (chosen : Scalar → Bool) (name : ScaleName) (read : Data → Checked α)
    (entries : List (Scalar × Data)) :
    scaleField name read (Entries.mapRows (restateField chosen) entries) = scaleField name read entries := by
  refine field_mapRows name.text [] (readSection read) _ (fun data => ?_) entries
  unfold restateField
  split
  · exact readSection_restated read data
  · rfl

theorem strayIssues_mapRows (known : List String) (change : Scalar → Data → Data) (entries : List (Scalar × Data)) :
    strayIssues known (Entries.mapRows change entries) = strayIssues known entries := by
  unfold strayIssues Entries.mapRows
  rw [List.filterMap_map]
  rfl

theorem readScales_restated (chosen : Scalar → Bool) (data : Data) :
    readScales (data.reviseRows (restateField chosen)) = readScales data := by
  cases data with
  | mapping entries =>
    unfold Data.reviseRows readScales readScaleEntries
    simp only [scaleField_restated, strayIssues_mapRows]
  | _ => rfl

theorem readFields_restated (chosen : Scalar → Scalar → Bool) (entries : List (Scalar × Data)) :
    readFields (Entries.mapRows (restateSection chosen) entries) = readFields entries := by
  have kept {α : Type} (name : String) (standIn : α) (read : Data → Checked α)
      (other : Scalar.text name ∉ sectionKeys) :
      field name standIn read (Entries.mapRows (restateSection chosen) entries) = field name standIn read entries :=
    field_mapRows name standIn read _ (fun data => congrArg read (if_neg other)) entries
  have alike (name : String) (standIn : Option ScaleSettings) (known : Scalar.text name ∈ sectionKeys) :
      field name standIn readScales (Entries.mapRows (restateSection chosen) entries) =
        field name standIn readScales entries := by
    refine field_mapRows name standIn readScales _ (fun data => ?_) entries
    rw [restateSection, if_pos known, readScales_restated]
  unfold readFields
  rw [kept "version" _ _ (by decide), kept "strict" _ _ (by decide), kept "approximate" _ _ (by decide),
    kept "thresholds" _ _ (by decide), kept "screens" _ _ (by decide), kept "cache" _ _ (by decide),
    alike "legacy" _ (by decide), alike "current" _ (by decide), strayIssues_mapRows]

-- Settings are the same whichever fields of the sections are put as texts beforehand. Texts are made at every depth
-- and once, and keys of a mapping that have one text stay as one, in the first place and with the last value.
theorem ofData_restated :
    (∀ (chosen : Scalar → Scalar → Bool) (data : Data), ofData (restateSections chosen data) = ofData data) ∧
    (∀ data : Data, data.stringified.Textual ∧ data.stringified.stringified = data.stringified) ∧
    ∀ rows : List (Scalar × Data), ∃ kept : Entries String Data,
      (Data.mapping rows).stringified = Data.ofTexts kept ∧
      Entries.keys kept = (rows.map (·.1.string)).eraseDups ∧
      ∀ key value, Entries.find? key kept = some value ↔ ∃ before own after, rows = before ++ own :: after ∧
        own.1.string = key ∧ own.2.stringified = value ∧ ∀ row ∈ after, row.1.string ≠ key := by
  refine ⟨fun chosen data => ?_, fun data => ⟨Data.stringified_textual data, Data.stringified_idem data⟩, fun rows => ?_⟩
  · cases data with
    | mapping entries => exact congrArg Checked.toExcept (readFields_restated chosen entries)
    | _ => rfl
  · exact ⟨Data.merged rows, Data.stringified_merged rows, Data.keys_merged rows, Data.find?_merged_iff rows⟩

end Settings
end UtilityCss
