import UtilityCss.Proofs.Settings.Section
import UtilityCss.Proofs.Theme.Screens

namespace UtilityCss

theorem Source.screens_returns (source : Source) (own other : Entries String Int)
    (current : Layer.screenWidths source.current = .ok own) (legacy : Layer.screenWidths source.legacy = .ok other) :
    ∃ screens, source.screens [] = .ok screens := by
  unfold screens
  rw [current, legacy]
  cases own with
  | nil =>
    cases other with
    | nil => exact ⟨_, rfl⟩
    | cons first rest => exact ⟨_, rfl⟩
  | cons first rest => exact ⟨_, rfl⟩

namespace Settings

def ofSection (scales : ScaleSettings) : Settings := { standard with current := some scales }

theorem ofData_section (entries : List (Scalar × Data)) (settings : Settings)
    (returns : ofData (.mapping [(.text "current", .mapping entries)]) = .ok settings) :
    (readScaleEntries entries).issues = [] ∧ settings = ofSection (readScaleEntries entries).value := by
  have read : readFields [(.text "current", .mapping entries)] =
      ⟨(((readScaleEntries entries).map some).under "current").issues,
        ofSection (readScaleEntries entries).value⟩ := by
    simp [readFields, field, Entries.find?, Checked.valid, strayIssues, strayIssue, fieldNames, readScales, ofSection,
      Checked.under, Checked.map, standard]
  change (readFields [(.text "current", .mapping entries)]).toExcept = .ok settings at returns
  rw [read, Checked.toExcept] at returns
  split at returns
  · rename_i clean
    cases returns
    exact ⟨List.map_eq_nil_iff.mp (List.isEmpty_iff.mp clean), rfl⟩
  · cases returns

theorem context_current (settings : Settings) (ctx : Context) (returns : settings.context = .ok ctx) :
    ctx.current = settings.current.map (·.layer) := by
  unfold context Source.context at returns
  obtain ⟨screens, _, made⟩ := (bind_eq_ok_iff _ _ _).mp returns
  cases made
  rfl

theorem context_returns_iff (scales : ScaleSettings) : (∃ ctx, (ofSection scales).context = .ok ctx) ↔
    ∀ row ∈ scales.layer.screens.entries, ∃ width, screenWidth? row.2 = .ok width := by
  rw [← screensOfScale_returns_iff]
  unfold context Source.context
  constructor
  · rintro ⟨ctx, returns⟩
    obtain ⟨screens, read, _⟩ := (bind_eq_ok_iff _ _ _).mp returns
    obtain ⟨current, own, _⟩ := (bind_eq_ok_iff _ _ _).mp read
    exact ⟨current, own⟩
  · rintro ⟨current, own⟩
    -- The standard theme stands behind the section, and its screens can be read.
    have standing : (Layer.screenWidths (some Layer.standard)).map List.length = .ok 5 := by decide +kernel
    obtain ⟨widths, legacy, _⟩ := (map_eq_ok_iff _ _ _).mp standing
    obtain ⟨screens, read⟩ := Source.screens_returns (ofSection scales).source current widths own legacy
    exact ⟨_, (bind_eq_ok_iff _ _ _).mpr ⟨screens, read, rfl⟩⟩

structure DistinctKeys (entries : List (Scalar × Data)) : Prop where
  rows : ∀ name, ((rowsOf entries name).map (·.1.string)).Nodup
  shades : ∀ row ∈ rowsOf entries .colors, Scale.DistinctShades true row.2

-- What the settings change in the tokens of a section: a shade that is a number is none otherwise, and a list in a
-- list is shown with its numbers as texts.
structure KeepsTokens (entries : List (Scalar × Data)) : Prop where
  fronts : ∀ name, ∀ row ∈ rowsOf entries name, Scale.FrontKept row.2
  shades : ∀ row ∈ rowsOf entries .colors, Scale.ShadesKept true row.2

theorem DistinctKeys.shaded {entries : List (Scalar × Data)} (distinct : DistinctKeys entries) (name : ScaleName) :
    ∀ row ∈ rowsOf entries name, Scale.DistinctShades (name == .colors) row.2 := by
  intro row member colours
  cases name with
  | colors => exact distinct.shades row member rfl
  | _ => cases colours

theorem keepsTokens_iff (entries : List (Scalar × Data)) : KeepsTokens entries ↔
    ∀ name, ∀ row ∈ rowsOf entries name, Scale.FrontKept row.2 ∧ Scale.ShadesKept (name == .colors) row.2 := by
  constructor
  · intro keeps name row member
    refine ⟨keeps.fronts name row member, fun colours => ?_⟩
    cases name with
    | colors => exact keeps.shades row member rfl
    | _ => cases colours
  · intro each
    exact ⟨fun name row member => (each name row member).1, fun row member => (each .colors row member).2⟩

theorem Holds.layers {entries : List (Scalar × Data)} {scales : ScaleSettings} (holds : Holds entries scales) :
    Layer.ofData (.mapping entries) =
        .ok (.ofScales fun name => .ofEntries (name == .colors) (rowsOf entries name)) ∧
      Layer.ofData (.mapping (stringifiedSection entries)) = .ok scales.layer := by
  constructor
  · exact Layer.ofEntries_of_scales entries _ fun name => readScale_of_mapped entries name (holds.mapped name)
  · have same : scales.layer =
        .ofScales fun name => .ofEntries (name == .colors) (Data.texts (rowsOf entries name)) := by
      rw [Layer.eq_iff_scales]
      intro name
      rw [holds.scale, Layer.scale_ofScales]
    rw [same]
    apply Layer.ofEntries_of_scales
    intro name
    obtain ⟨mapped, rows⟩ := stringifiedSection_mapped entries name (holds.mapped name)
    rw [readScale_of_mapped _ name mapped, rows]

theorem current_of_section (entries : List (Scalar × Data)) (settings : Settings)
    (returns : ofData (.mapping [(.text "current", .mapping entries)]) = .ok settings) :
    ∃ own layer, Layer.ofData (.mapping entries) = .ok own ∧
      Layer.ofData (.mapping (stringifiedSection entries)) = .ok layer ∧
      (∀ ctx, settings.context = .ok ctx → ctx.current = some layer) ∧
      ((∃ ctx, settings.context = .ok ctx) ↔
        ∀ row ∈ layer.screens.entries, ∃ width, screenWidth? row.2 = .ok width) ∧
      (DistinctKeys entries → (layer = own ↔ KeepsTokens entries)) := by
  obtain ⟨clean, rfl⟩ := ofData_section entries settings returns
  have holds := readScaleEntries_holds entries clean
  obtain ⟨plain, texts⟩ := holds.layers
  refine ⟨_, _, plain, texts, context_current _, context_returns_iff _, fun distinct => ?_⟩
  rw [Layer.eq_iff_scales, keepsTokens_iff]
  apply forall_congr'
  intro name
  rw [holds.scale, Layer.scale_ofScales, eq_comm]
  exact Scale.ofEntries_texts _ _ (distinct.rows name) (distinct.shaded name)

theorem current_of_section_with_numbers :
    let entries : List (Scalar × Data) := [
      (.text "spacing", .mapping [(.int 4, .text "1rem"), (.text "half", .int 2)]),
      (.text "colors", .mapping [(.text "blue", .mapping [(.int 500, .text "#3b82f6")]), (.text "ink", .int 7)]),
      (.text "font_size", .mapping [(.text "sm", .list [.text "14px", .int 20])]),
      (.text "screens", .mapping [(.text "md", .int 768)])]
    ∃ settings ctx layer, ofData (.mapping [(.text "current", .mapping entries)]) = .ok settings ∧
      DistinctKeys entries ∧ KeepsTokens entries ∧ settings.context = .ok ctx ∧ ctx.current = some layer ∧
      Layer.ofData (.mapping entries) = .ok layer ∧
      layer.colors.entries = [("blue-500", "#3b82f6"), ("ink", "7")] := by
  intro entries
  have distinct : DistinctKeys entries := ⟨fun name => by cases name <;> decide +kernel, by decide +kernel⟩
  have keeps : KeepsTokens entries := ⟨fun name => by cases name <;> decide +kernel, by decide +kernel⟩
  have makes : (ofData (.mapping [(.text "current", .mapping entries)])).map
      (fun settings => settings.context.map (·.screens)) = .ok (.ok [("md", 768)]) := by
    decide +kernel
  have painted : (Layer.ofData (.mapping entries)).map (·.colors.entries) =
      .ok [("blue-500", "#3b82f6"), ("ink", "7")] := by
    decide +kernel
  obtain ⟨settings, returns, context⟩ := (map_eq_ok_iff _ _ _).mp makes
  obtain ⟨ctx, made, _⟩ := (map_eq_ok_iff _ _ _).mp context
  obtain ⟨own, layer, plain, _, current, _, exactly⟩ := current_of_section entries settings returns
  have same := (exactly distinct).mpr keeps
  subst same
  rw [plain] at painted
  exact ⟨settings, ctx, layer, returns, distinct, keeps, made, current ctx made, plain, Except.ok.inj painted⟩

theorem current_differs_from_section :
    let shade : List (Scalar × Data) :=
      [(.text "colors", .mapping [(.text "blue", .mapping [(.text "500", .int 123)])])]
    let list : List (Scalar × Data) := [(.text "font_size", .mapping [(.text "sm", .list [.list [.int 1]])])]
    let keys : List (Scalar × Data) :=
      [(.text "spacing", .mapping [(.int 4, .text "1rem"), (.text "4", .text "2rem")])]
    let current (entries : List (Scalar × Data)) :=
      (ofData (.mapping [(.text "current", .mapping entries)])).map fun settings => settings.context.map (·.current)
    current shade = .ok (.ok (some { Layer.empty with colors := ⟨[("blue-500", "123")]⟩ })) ∧
      Layer.ofData (.mapping shade) = .ok Layer.empty ∧
      current list = .ok (.ok (some { Layer.empty with fontSize := ⟨[("sm", "['1']")]⟩ })) ∧
      Layer.ofData (.mapping list) = .ok { Layer.empty with fontSize := ⟨[("sm", "[1]")]⟩ } ∧
      current keys = .ok (.ok (some { Layer.empty with spacing := ⟨[("4", "2rem")]⟩ })) ∧
      Layer.ofData (.mapping keys) = .ok { Layer.empty with spacing := ⟨[("4", "1rem"), ("4", "2rem")]⟩ } := by
  decide +kernel

end Settings
end UtilityCss
