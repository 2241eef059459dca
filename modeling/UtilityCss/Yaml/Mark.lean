import UtilityCss.Yaml.Directive
import UtilityCss.Yaml.Quoted

namespace UtilityCss.Yaml

inductive Mark
  | documentStart
  | documentEnd
  | directive (content : Directive)
  | blockSequence
  | blockMapping
  | blockEnd
  | flowSequence
  | flowSequenceEnd
  | flowMapping
  | flowMappingEnd
  | entry
  | comma
  | key
  | value
  | plain (text : String)
  | quoted (text : String)
deriving DecidableEq, Repr

-- A place where a key may have begun: only the colon after it will tell. A required one stands where
-- nothing but a key can stand.
structure PossibleKey where
  mark : Nat
  required : Bool
  index : Nat
  line : Nat
  column : Nat
deriving Repr

-- How far a document has been read. A margin is one more than a column of indentation, 0 outside all
-- blocks; the possible keys are those of the open flow collections, innermost first, and of the block.
structure Layout where
  place : Place
  marks : Array Mark
  flowDepth : Nat
  margin : Nat
  outerMargins : List Nat
  allowsKey : Bool
  key : Option PossibleKey
  outerKeys : List (Option PossibleKey)
deriving Repr

namespace Layout

def start (cs : List Char) : Layout :=
  ⟨.start cs, #[], 0, 0, [], true, none, []⟩

def inFlow (layout : Layout) : Bool := layout.flowDepth != 0

def push (mark : Mark) (layout : Layout) : Layout := { layout with marks := layout.marks.push mark }

def skip (count : Nat) (layout : Layout) : Layout :=
  { layout with place := layout.place.advance count }

def skipGap (layout : Layout) : Layout :=
  let place := layout.place.advance (gapLength false layout.place.rest)
  let newLine := place.line != layout.place.line
  { layout with place := place, allowsKey := layout.allowsKey || (newLine && !layout.inFlow) }

def keyLimit : Nat := 1024

def isStale (layout : Layout) (key : PossibleKey) : Bool :=
  key.line != layout.place.line || keyLimit < layout.place.index - key.index

def freshKey? (layout : Layout) : Option PossibleKey → Option (Option PossibleKey)
  | none => some none
  | some key => if layout.isStale key then (if key.required then none else some none) else some (some key)

def dropStaleKeys? (layout : Layout) : Option Layout := do
  let key ← layout.freshKey? layout.key
  let outerKeys ← layout.outerKeys.mapM layout.freshKey?
  return { layout with key := key, outerKeys := outerKeys }

def forgetKey? (layout : Layout) : Option Layout :=
  match layout.key with
  | some key => if key.required then none else some { layout with key := none }
  | none => some layout

def saveKey? (layout : Layout) : Option Layout :=
  if layout.allowsKey then do
    let layout ← layout.forgetKey?
    let place := layout.place
    let required := !layout.inFlow && layout.margin == place.column + 1
    return { layout with key := some ⟨layout.marks.size, required, place.index, place.line, place.column⟩ }
  else some layout

def closeBlocks (margin : Nat) : List Nat → Layout → Layout
  | [], layout => layout
  | outer :: rest, layout =>
    if margin < layout.margin then
      closeBlocks margin rest { layout.push .blockEnd with margin := outer, outerMargins := rest }
    else layout

def unwind (margin : Nat) (layout : Layout) : Layout :=
  if layout.inFlow then layout else closeBlocks margin layout.outerMargins layout

def opensBlock (column : Nat) (layout : Layout) : Bool := layout.margin ≤ column

def indent (column : Nat) (layout : Layout) : Layout :=
  { layout with margin := column + 1, outerMargins := layout.margin :: layout.outerMargins }

def openBlock (mark : Mark) (layout : Layout) : Layout :=
  let column := layout.place.column
  if layout.opensBlock column then (layout.indent column).push mark else layout

def insertKey (key : PossibleKey) (layout : Layout) : Layout :=
  let before := layout.marks.take key.mark
  let after := layout.marks.drop key.mark
  let opens := !layout.inFlow && layout.opensBlock key.column
  let layout := if opens then layout.indent key.column else layout
  let added := if opens then #[Mark.blockMapping, Mark.key] else #[Mark.key]
  { layout with marks := before ++ added ++ after, key := none, allowsKey := false }

def documentMark? (mark : Mark) (layout : Layout) : Option Layout := do
  let layout ← (layout.unwind 0).forgetKey?
  return ({ layout with allowsKey := false }.skip 3).push mark

-- A directive takes in the break at its end, so that no key may begin on the line after it.
def directive (layout : Layout) : Except Refusal Layout := do
  let layout ← wellFormed (layout.unwind 0).forgetKey?
  let line := (layout.place.rest.drop 1).takeWhile fun c => !isBreak c
  let content ← Directive.ofLine line
  return ({ layout with allowsKey := false }.skip (line.length + 2)).push (.directive content)

def openFlow? (mark : Mark) (layout : Layout) : Option Layout := do
  let layout ← layout.saveKey?
  return ({ layout with
    flowDepth := layout.flowDepth + 1, allowsKey := true, key := none,
    outerKeys := layout.key :: layout.outerKeys }.skip 1).push mark

def closeFlow? (mark : Mark) (layout : Layout) : Option Layout := do
  let layout ← layout.forgetKey?
  match layout.outerKeys with
  | [] => none
  | key :: rest =>
    return ({ layout with
      flowDepth := layout.flowDepth - 1, allowsKey := false, key := key, outerKeys := rest }.skip 1).push mark

def comma? (layout : Layout) : Option Layout := do
  let layout ← layout.forgetKey?
  return ({ layout with allowsKey := true }.skip 1).push .comma

def blockEntry? (layout : Layout) : Option Layout := do
  if !layout.inFlow && !layout.allowsKey then none
  else
    let layout := if layout.inFlow then layout else layout.openBlock .blockSequence
    let layout ← layout.forgetKey?
    return ({ layout with allowsKey := true }.skip 1).push .entry

def explicitKey? (layout : Layout) : Option Layout := do
  if !layout.inFlow && !layout.allowsKey then none
  else
    let layout := if layout.inFlow then layout else layout.openBlock .blockMapping
    let layout ← layout.forgetKey?
    return ({ layout with allowsKey := !layout.inFlow }.skip 1).push .key

-- A colon either ends a key that began on this line or is the value of an explicit key.
def colon? (layout : Layout) : Option Layout := do
  match layout.key with
  | some key => return ((layout.insertKey key).skip 1).push .value
  | none =>
    if !layout.inFlow && !layout.allowsKey then none
    else
      let layout := if layout.inFlow then layout else layout.openBlock .blockMapping
      return ({ layout with allowsKey := !layout.inFlow }.skip 1).push .value

def quoted (quote : Char) (layout : Layout) : Except Refusal Layout := do
  let layout ← wellFormed layout.saveKey?
  let (content, place) ← quotedAt quote layout.place
  return { layout with place := place, allowsKey := false }.push (.quoted (String.ofList content))

def plain? (layout : Layout) : Option Layout := do
  let layout ← layout.saveKey?
  let run := plainAt layout.inFlow layout.margin layout.place
  return { layout with place := run.place, allowsKey := run.crossedLine }.push (.plain (String.ofList run.text))

def indicators : List Char :=
  ['-', '?', ':', ',', '[', ']', '\x7b', '\x7d', '#', '&', '*', '!', '|', '>', '\x27', '\x22', '%', '@',
    '\x60']

def beginsPlain (inFlow : Bool) (c : Char) (rest : List Char) : Bool :=
  !(isGap c || indicators.contains c) ||
    (!endsPart rest && (c == '-' || (!inFlow && (c == '?' || c == ':'))))

def formalPart? (c : Char) (rest : List Char) (layout : Layout) : Option Layout :=
  let cs := c :: rest
  let lineStart := layout.place.column == 0
  if c == '-' && lineStart && isDocumentMark cs then layout.documentMark? .documentStart
  else if c == '.' && lineStart && isDocumentMark cs then layout.documentMark? .documentEnd
  else if c == '[' then layout.openFlow? .flowSequence
  else if c == '\x7b' then layout.openFlow? .flowMapping
  else if c == ']' then layout.closeFlow? .flowSequenceEnd
  else if c == '\x7d' then layout.closeFlow? .flowMappingEnd
  else if c == ',' then layout.comma?
  else if c == '-' && endsPart rest then layout.blockEntry?
  else if c == '?' && (layout.inFlow || endsPart rest) then layout.explicitKey?
  else if c == ':' && (layout.inFlow || endsPart rest) then layout.colon?
  else if beginsPlain layout.inFlow c rest then layout.plain?
  else none

-- Anchors, aliases and tags, and in the block style scalars by lines.
def beginsUnread (c : Char) (layout : Layout) : Bool :=
  c == '&' || c == '*' || c == '!' || (!layout.inFlow && (c == '|' || c == '>'))

def part (c : Char) (rest : List Char) (layout : Layout) : Except Refusal Layout :=
  if c == '%' && layout.place.column == 0 then layout.directive
  else if c == singleQuote || c == doubleQuote then layout.quoted c
  else if layout.beginsUnread c then .error .unread
  else wellFormed (layout.formalPart? c rest)

def settled (layout : Layout) : List Mark :=
  let pending := (layout.key :: layout.outerKeys).filterMap fun key =>
    key.filter fun key => !layout.isStale key
  layout.marks.toList.take (pending.foldl (fun least key => min least key.mark) layout.marks.size)

end Layout

inductive Marks
  | all (marks : List Mark)
  | cut (settled : List Mark) (refusal : Refusal)

namespace Layout

def marks? : Nat → Layout → Option Marks
  | 0, _ => none
  | fuel + 1, layout => do
    let next ← layout.skipGap.dropStaleKeys?
    let next := next.unwind (next.place.column + 1)
    match next.place.rest with
    | [] =>
      let last ← (next.unwind 0).forgetKey?
      return .all last.marks.toList
    | c :: rest =>
      match next.part c rest with
      | .ok later => marks? fuel later
      | .error .badSyntax => none
      | .error refusal => return .cut layout.settled refusal

end Layout

-- Every part is at least one character long.
def Marks.ofText? (cs : List Char) : Option Marks := Layout.marks? (cs.length + 1) (.start cs)

end UtilityCss.Yaml
