import UtilityCss.Settings.Basic
import UtilityCss.Settings.Numeral

namespace UtilityCss
open Text

namespace Data

mutual
def stringified : Data → Data
  | .scalar (.int n) => .text (Scalar.int n).string
  | .scalar (.float x) => .text (Scalar.float x).string
  | .scalar s => .scalar s
  | .list items => .list (stringifiedItems items)
  | .mapping entries => Data.ofPairs (stringifiedEntries entries)
def stringifiedItems : List Data → List Data
  | [] => []
  | item :: rest => item.stringified :: stringifiedItems rest
def stringifiedEntries : List (Scalar × Data) → List (Scalar × Data)
  | [] => []
  | (key, value) :: rest => (.text key.string, value.stringified) :: stringifiedEntries rest
end

end Data

namespace Settings

-- In places a key stands as itself; a truth value counts as a number there.
def keyText : Scalar → String
  | .text s => s
  | .bool b => if b then "1" else "0"
  | .int n => if Scalar.isWritable (.int n) then toString n else "<unprintable int object>"
  | key => key.string

def versionNames : List (String × LayerName) :=
  [("v3", .legacy), ("3", .legacy), ("legacy", .legacy), ("v4", .current), ("4", .current),
    ("current", .current)]

def readVersion (data : Data) : Checked LayerName :=
  if !data.isWritable then .faulty .unwritableInteger .current
  else match Entries.find? (lowercase (trim data.string)) versionNames with
    | some version => .valid version
    | none => .faulty (.unknownVersion data.string) .current

def trueNames : List String := ["true", "t", "yes", "y", "on", "1"]
def falseNames : List String := ["false", "f", "no", "n", "off", "0"]

def truthOf (n : Int) : Checked Bool :=
  if n = 0 then .valid false else if n = 1 then .valid true else .faulty .unreadableBool false

def isWord (n : Int) : Bool := fitsWord n || n == - Int.ofNat (twoTo 63)

def readBool : Data → Checked Bool
  | .scalar (.bool b) => .valid b
  | .scalar (.int n) => if isWord n then truthOf n else .faulty .notBool false
  | .scalar (.float x) =>
    match integerOfNumber x with
    | .ok n => truthOf n
    | .error _ => .faulty .notBool false
  | .scalar (.text s) =>
    let name := String.ofList (s.toList.map asciiLower)
    if trueNames.contains name then .valid true
    else if falseNames.contains name then .valid false
    else .faulty .unreadableBool false
  | _ => .faulty .notBool false

def atLeastZero (x : Binary64) : Checked Binary64 :=
  if Binary64.zero.atMost x then .valid x else .faulty .belowZero x

def readThreshold : Data → Checked Binary64
  | .scalar (.bool b) => .valid (if b then 1 else 0)
  | .scalar (.int n) =>
    let x := Binary64.ofInt n
    if x.isFinite then atLeastZero x else .faulty .notNumber x
  | .scalar (.float x) => atLeastZero x
  | .scalar (.text s) =>
    match numberText? s with
    | some x => atLeastZero x
    | none => .faulty .unreadableNumber 0
  | _ => .faulty .notNumber 0

def readInteger : Data → Checked Int
  | .scalar (.bool b) => .valid (if b then 1 else 0)
  | .scalar (.int n) => .valid n
  | .scalar (.float x) => .ofExcept 0 (integerOfNumber x)
  | .scalar (.text s) => .ofExcept 0 (integerText s)
  | _ => .faulty .notInteger 0

def readText : Data → Checked String
  | .scalar (.text s) => .valid s
  | _ => .faulty .notText ""

variable {α : Type}

def readEntries (read : Data → Checked α) (entries : List (Scalar × Data)) :
    Checked (Entries String α) :=
  let rows := entries.map fun row => (keyText row.1, (read row.2).under (keyText row.1))
  ⟨rows.flatMap (·.2.issues), rows.map fun row => (row.1, row.2.value)⟩

def readMapping (read : Data → Checked α) : Data → Checked (Entries String α)
  | .mapping entries => readEntries read entries
  | _ => .faulty .notMapping []

def keyIssues : Scalar → List Issue
  | .text _ => []
  | key => [⟨[keyText key, "[key]"], .notText⟩]

def readScreens : Data → Checked (Entries String Int)
  | .mapping entries =>
    let rows := entries.map fun row => (row.1, (readInteger row.2).under (keyText row.1))
    ⟨rows.flatMap fun row => keyIssues row.1 ++ row.2.issues,
      rows.map fun row => (keyText row.1, row.2.value)⟩
  | _ => .faulty .notMapping []

def readColor : Data → Checked ColorEntry
  | .scalar (.text s) => .valid (.single s)
  | data =>
    let shades := readMapping readText data
    if shades.isValid then .valid (.shades shades.value)
    else
      ⟨⟨["str"], .notText⟩ :: (shades.under "dict[str,str]").issues, .shades []⟩

def readSize : Data → Checked SizeEntry
  | .scalar (.text s) => .valid (.single s)
  | .list items => .valid (.list items)
  | _ => ⟨[⟨["str"], .notText⟩, ⟨["list[any]"], .notList⟩], .list []⟩

def field (name : String) (standIn : α) (read : Data → Checked α) (entries : List (Scalar × Data)) :
    Checked α :=
  match Entries.find? (.text name) entries with
  | some data => (read data).under name
  | none => .valid standIn

def strayIssue (known : List String) : Scalar → Option Issue
  | .text s => if known.contains s then none else some ⟨[s], .unknownKey⟩
  | key => some ⟨[keyText key], .keyNotText⟩

def strayIssues (known : List String) (entries : List (Scalar × Data)) : List Issue :=
  entries.filterMap fun row => strayIssue known row.1

def thresholdFields : List String := ["spacing_px", "font_px", "radius_px"]

def readThresholds : Data → Checked Thresholds
  | .mapping entries =>
    let spacing := field "spacing_px" Thresholds.standard.spacing readThreshold entries
    let font := field "font_px" Thresholds.standard.font readThreshold entries
    let radius := field "radius_px" Thresholds.standard.radius readThreshold entries
    ⟨spacing.issues ++ font.issues ++ radius.issues ++ strayIssues thresholdFields entries,
      ⟨spacing.value, font.value, radius.value⟩⟩
  | _ => .faulty (.notSection "ThresholdSettings") .standard

-- A section of a scale is read from its texts, so that a number and its text are the same key or value.
def readSection (read : Data → Checked α) (data : Data) : Checked (Entries String α) :=
  if data.isWritable then readMapping read data.stringified else .faulty .unwritableInteger []

def scaleField (name : ScaleName) (read : Data → Checked α) (entries : List (Scalar × Data)) :
    Checked (Entries String α) :=
  field name.text [] (readSection read) entries

def readScaleEntries (entries : List (Scalar × Data)) : Checked ScaleSettings :=
  let spacing := scaleField .spacing readText entries
  let colors := scaleField .colors readColor entries
  let fontSize := scaleField .fontSize readSize entries
  let lineHeight := scaleField .lineHeight readText entries
  let radius := scaleField .radius readText entries
  let screens := scaleField .screens readText entries
  ⟨spacing.issues ++ colors.issues ++ fontSize.issues ++ lineHeight.issues ++ radius.issues ++
      screens.issues ++ strayIssues (ScaleName.all.map (·.text)) entries,
    ⟨spacing.value, colors.value, fontSize.value, lineHeight.value, radius.value, screens.value⟩⟩

def readScales : Data → Checked (Option ScaleSettings)
  | .scalar .null => .valid none
  | .mapping entries => (readScaleEntries entries).map some
  | _ => .faulty (.notSection "ScaleSettings") none

def fieldNames : List String :=
  ["version", "strict", "approximate", "thresholds", "screens", "cache", "legacy", "current"]

-- Every entry is read on its own and all issues are kept: those of the known fields in the order of the
-- fields, then those of the keys that no field has.
def readFields (entries : List (Scalar × Data)) : Checked Settings :=
  let version := field "version" standard.version readVersion entries
  let strict := field "strict" standard.strict readBool entries
  let approximate := field "approximate" standard.approximate readBool entries
  let thresholds := field "thresholds" standard.thresholds readThresholds entries
  let screens := field "screens" standard.screens readScreens entries
  let cache := field "cache" standard.cache readBool entries
  let legacy := field "legacy" standard.legacy readScales entries
  let current := field "current" standard.current readScales entries
  ⟨version.issues ++ strict.issues ++ approximate.issues ++ thresholds.issues ++ screens.issues ++
      cache.issues ++ legacy.issues ++ current.issues ++ strayIssues fieldNames entries,
    ⟨version.value, strict.value, approximate.value, thresholds.value, screens.value, cache.value,
      legacy.value, current.value⟩⟩

def ofData : Data → Except (List Issue) Settings
  | .scalar .null => .ok standard
  | .mapping entries => (readFields entries).toExcept
  | data => .error [⟨[], .notRootMapping data.kindName⟩]

def failureMessage (issues : List Issue) : String :=
  "Settings validation failed: " ++ String.intercalate "; " (issues.map (·.text))

end Settings
end UtilityCss
