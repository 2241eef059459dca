import UtilityCss.Proofs.Settings.Textual
import UtilityCss.Proofs.Traversal

namespace UtilityCss

namespace Scale

theorem leafIsWritable_of_data (key : Scalar) (value : Data) (named : key.isWritable = true)
    (valued : value.isWritable = true) : leafIsWritable key value = true := by
  have both : (key.isWritable && value.isWritable) = true := by rw [named, valued]; rfl
  cases value with
  | scalar s =>
    cases s with
    | null => rfl
    | _ => exact both
  | list items => exact both
  | mapping rows => rfl

theorem entryIsWritable_of_data (nested : Bool) (row : Scalar × Data) (named : row.1.isWritable = true)
    (valued : row.2.isWritable = true) : entryIsWritable nested row = true := by
  obtain ⟨key, value⟩ := row
  cases value with
  | scalar s => exact leafIsWritable_of_data key _ named valued
  | list items =>
    cases items with
    | nil => rfl
    | cons first rest =>
      exact leafIsWritable_of_data key first named ((Data.areWritable_iff _).mp valued first List.mem_cons_self)
  | mapping shades =>
    have each := (Data.areWritableEntries_iff shades).mp valued
    have written : shades.all (shadeIsWritable key) = true := by
      rw [List.all_eq_true]
      intro shade listed
      simp [shadeIsWritable, named, (each shade listed).1]
    rw [entryIsWritable, written, Bool.or_true]

theorem ofData_of_writable (nested : Bool) (rows : List (Scalar × Data))
    (writable : (Data.mapping rows).isWritable = true) :
    ofData nested (.mapping rows) = .ok (ofEntries nested rows) := by
  apply if_pos
  rw [List.all_eq_true]
  intro row listed
  have each := (Data.areWritableEntries_iff rows).mp writable row listed
  exact entryIsWritable_of_data nested row each.1 each.2

end Scale

namespace Layer

def ofScales (scales : ScaleName → Scale) : Layer :=
  ⟨scales .spacing, scales .colors, scales .fontSize, scales .lineHeight, scales .radius, scales .screens⟩

theorem scale_ofScales (scales : ScaleName → Scale) (name : ScaleName) :
    (ofScales scales).scale name = scales name := by
  cases name <;> rfl

theorem eq_iff_scales (one other : Layer) : one = other ↔ ∀ name, one.scale name = other.scale name := by
  constructor
  · rintro rfl name
    rfl
  · intro same
    obtain ⟨spacing, colors, fontSize, lineHeight, radius, screens⟩ := one
    rw [mk.injEq]
    exact ⟨same .spacing, same .colors, same .fontSize, same .lineHeight, same .radius, same .screens⟩

theorem ofEntries_of_scales (entries : List (Scalar × Data)) (scales : ScaleName → Scale)
    (each : ∀ name, readScale entries name = .ok (scales name)) : ofEntries entries = .ok (ofScales scales) := by
  unfold ofEntries
  rw [each, each, each, each, each, each]
  rfl

end Layer

namespace Settings

def rowsOf (entries : List (Scalar × Data)) (name : ScaleName) : List (Scalar × Data) :=
  match Entries.find? (.text name.text) entries with
  | some (.mapping rows) => rows
  | _ => []

def Mapped (entries : List (Scalar × Data)) (name : ScaleName) : Prop :=
  ∀ data, Entries.find? (.text name.text) entries = some data →
    ∃ rows, data = .mapping rows ∧ (Data.mapping rows).isWritable = true

theorem readScale_of_mapped (entries : List (Scalar × Data)) (name : ScaleName) (mapped : Mapped entries name) :
    Layer.readScale entries name = .ok (.ofEntries (name == .colors) (rowsOf entries name)) := by
  unfold Layer.readScale rowsOf
  cases found : Entries.find? (.text name.text) entries with
  | none => rfl
  | some data =>
    obtain ⟨rows, rfl, writable⟩ := mapped data found
    exact Scale.ofData_of_writable _ rows writable

def stringifiedSection (entries : List (Scalar × Data)) : List (Scalar × Data) :=
  Entries.mapValues Data.stringified entries

theorem stringifiedSection_mapped (entries : List (Scalar × Data)) (name : ScaleName) (mapped : Mapped entries name) :
    Mapped (stringifiedSection entries) name ∧
      rowsOf (stringifiedSection entries) name = Data.texts (rowsOf entries name) := by
  unfold Mapped rowsOf stringifiedSection
  rw [Entries.find?_mapValues]
  cases found : Entries.find? (.text name.text) entries with
  | none => exact ⟨nofun, rfl⟩
  | some data =>
    obtain ⟨rows, rfl, _⟩ := mapped data found
    have writable := Data.isWritable_of_textual _ (Data.stringified_textual (.mapping rows))
    rw [Data.stringified_mapping] at writable
    rw [Option.map_some, Data.stringified_mapping]
    refine ⟨?_, rfl⟩
    rintro _ ⟨⟩
    exact ⟨_, rfl, writable⟩

variable {α : Type}

-- A reader that accepts a text takes it over unchanged, so that the text can be written back.
def Faithful (read : Data → Checked α) (back : α → Data) : Prop :=
  ∀ data : Data, (read data.stringified).issues = [] → back (read data.stringified).value = data.stringified

theorem readText_faithful : Faithful readText Data.text := by
  intro data valid
  cases shape : data.stringified with
  | scalar s =>
    rw [shape] at valid
    cases s with
    | text s => rfl
    | _ => cases valid
  | _ =>
    rw [shape] at valid
    cases valid

theorem readEntries_issues (read : Data → Checked α) (rows : List (Scalar × Data))
    (valid : (readEntries read rows).issues = []) : ∀ row ∈ rows, (read row.2).issues = [] := by
  unfold readEntries at valid
  simp only [List.flatMap_map, List.flatMap_eq_nil_iff, Checked.under, List.map_eq_nil_iff] at valid
  exact valid

theorem readEntries_back (read : Data → Checked α) (back : α → Data) (faithful : Faithful read back)
    (rows : List (Scalar × Data)) (valid : (readEntries read (Data.texts rows)).issues = []) :
    (readEntries read (Data.texts rows)).value.map (fun row => (Scalar.text row.1, back row.2)) =
      Data.texts rows := by
  have each := readEntries_issues read _ valid
  unfold readEntries
  rw [List.map_map, List.map_map]
  conv => rhs; rw [← List.map_id (Data.texts rows)]
  apply List.map_congr_left
  rintro ⟨key, value⟩ member
  obtain ⟨⟨text, rfl⟩, origin, rfl⟩ := Data.mem_texts rows _ member
  have kept := faithful origin (each _ member)
  simp only [Function.comp_apply, Checked.under, keyText, kept, id_eq]

theorem readMapping_back (read : Data → Checked α) (back : α → Data) (faithful : Faithful read back) (data : Data)
    (valid : (readMapping read data.stringified).issues = []) :
    ∃ rows, data = .mapping rows ∧
      (readMapping read data.stringified).value.map (fun row => (Scalar.text row.1, back row.2)) =
        Data.texts rows := by
  cases data with
  | scalar s => cases s <;> cases valid
  | list items => cases valid
  | mapping rows =>
    rw [Data.stringified_mapping] at valid ⊢
    exact ⟨rows, rfl, readEntries_back read back faithful rows valid⟩

theorem readColor_faithful : Faithful readColor ScaleSettings.ColorEntry.toData := by
  intro data valid
  cases data with
  | scalar s =>
    cases s with
    | null => cases valid
    | bool b => cases valid
    | _ => rfl
  | list items => cases valid
  | mapping rows =>
    rw [Data.stringified_mapping] at valid ⊢
    unfold readColor at valid ⊢
    dsimp only at valid ⊢
    split at valid
    · rename_i shades
      have clean : (readMapping readText (Data.mapping rows).stringified).issues = [] := by
        rw [Data.stringified_mapping]
        exact List.isEmpty_iff.mp shades
      obtain ⟨_, same, back⟩ := readMapping_back readText Data.text readText_faithful (.mapping rows) clean
      cases same
      rw [Data.stringified_mapping] at back
      rw [if_pos shades]
      exact congrArg Data.mapping back
    · cases valid

theorem readSize_faithful : Faithful readSize ScaleSettings.SizeEntry.toData := by
  intro data valid
  cases data with
  | scalar s =>
    cases s with
    | null => cases valid
    | bool b => cases valid
    | _ => rfl
  | list items => rfl
  | mapping rows => cases valid

theorem scaleField_back (name : ScaleName) (read : Data → Checked α) (back : α → Data) (faithful : Faithful read back)
    (entries : List (Scalar × Data)) (valid : (scaleField name read entries).issues = []) :
    Mapped entries name ∧ (scaleField name read entries).value.map (fun row => (Scalar.text row.1, back row.2)) =
      Data.texts (rowsOf entries name) := by
  unfold scaleField field at valid ⊢
  unfold Mapped rowsOf
  cases found : Entries.find? (.text name.text) entries with
  | none => exact ⟨nofun, rfl⟩
  | some data =>
    rw [found] at valid
    have clean : (readSection read data).issues = [] := List.map_eq_nil_iff.mp valid
    unfold readSection at clean
    split at clean
    · rename_i writable
      obtain ⟨rows, rfl, same⟩ := readMapping_back read back faithful data clean
      dsimp only
      rw [readSection, if_pos writable]
      refine ⟨?_, same⟩
      rintro _ ⟨⟩
      exact ⟨rows, rfl, writable⟩
    · cases clean

structure Holds (entries : List (Scalar × Data)) (scales : ScaleSettings) : Prop where
  mapped : ∀ name, Mapped entries name
  scale : ∀ name, scales.layer.scale name = .ofEntries (name == .colors) (Data.texts (rowsOf entries name))

theorem readScaleEntries_holds (entries : List (Scalar × Data)) (valid : (readScaleEntries entries).issues = []) :
    Holds entries (readScaleEntries entries).value := by
  unfold readScaleEntries at valid
  simp only [List.append_eq_nil_iff] at valid
  obtain ⟨⟨⟨⟨⟨⟨spacing, colors⟩, fontSize⟩, lineHeight⟩, radius⟩, screens⟩, _⟩ := valid
  have spacing := scaleField_back .spacing readText Data.text readText_faithful entries spacing
  have colors := scaleField_back .colors readColor _ readColor_faithful entries colors
  have fontSize := scaleField_back .fontSize readSize _ readSize_faithful entries fontSize
  have lineHeight := scaleField_back .lineHeight readText Data.text readText_faithful entries lineHeight
  have radius := scaleField_back .radius readText Data.text readText_faithful entries radius
  have screens := scaleField_back .screens readText Data.text readText_faithful entries screens
  constructor
  · intro name
    cases name
    · exact spacing.1
    · exact colors.1
    · exact fontSize.1
    · exact lineHeight.1
    · exact radius.1
    · exact screens.1
  · intro name
    cases name
    · exact congrArg (Scale.ofEntries false) spacing.2
    · exact congrArg (Scale.ofEntries true) colors.2
    · exact congrArg (Scale.ofEntries false) fontSize.2
    · exact congrArg (Scale.ofEntries false) lineHeight.2
    · exact congrArg (Scale.ofEntries false) radius.2
    · exact congrArg (Scale.ofEntries false) screens.2

end Settings
end UtilityCss
