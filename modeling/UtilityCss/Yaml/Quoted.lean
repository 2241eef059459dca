import UtilityCss.Yaml.Place
import UtilityCss.Yaml.Plain
import UtilityCss.Yaml.Refusal

namespace UtilityCss.Yaml

def singleQuote : Char := '\x27'
def doubleQuote : Char := '\x22'

def simpleEscapes : List (Char × Nat) :=
  [('0', 0), ('a', 7), ('b', 8), ('t', 9), ('\t', 9), ('n', 10), ('v', 11), ('f', 12), ('r', 13),
    ('e', 27), (' ', 32), ('\x22', 34), ('\\', 92), ('/', 47), ('N', 0x85), ('_', 0xa0),
    ('L', 0x2028), ('P', 0x2029)]

def codeEscapes : List (Char × Nat) := [('x', 2), ('u', 4), ('U', 8)]

def hexNumber? (width : Nat) (cs : List Char) : Option (Nat × List Char) :=
  let digits := cs.take width
  if digits.length < width then none
  else (digits.foldlM (fun total c => (digitIn 16 c).map (total * 16 + ·)) 0).map
    fun n => (n, cs.drop width)

def quotedBreaks? : Bool → List Char → Option (List Char × List Char)
  | _, [] => some ([], [])
  | lineStart, c :: rest =>
    if lineStart && isDocumentMark (c :: rest) then none
    else if isSpaceOrTab c then quotedBreaks? false rest
    else if isBreak c then (quotedBreaks? true rest).map fun r => (breakContent c :: r.1, r.2)
    else some ([], c :: rest)

def coded (code : Nat) : Except Refusal Char :=
  if code < 0x110000 then .ok (Char.ofNat code)
  else if code < twoTo 31 then .error (.noValue .noCharacter)
  else .error (.noValue .overlongCode)

def escape : List Char → Except Refusal (List Char × List Char)
  | [] => .error .badSyntax
  | c :: rest =>
    match simpleEscapes.find? (·.1 == c) with
    | some row => .ok ([Char.ofNat row.2], rest)
    | none => match codeEscapes.find? (·.1 == c) with
      | some row => do
        let (code, rest) ← wellFormed (hexNumber? row.2 rest)
        return ([← coded code], rest)
      | none => if isBreak c then wellFormed (quotedBreaks? true rest) else .error .badSyntax

def quotedFrom (quote : Char) : Nat → List Char → List Char → Except Refusal (List Char × List Char)
  | 0, _, _ => .error .badSyntax
  | _, _, [] => .error .badSyntax
  | fuel + 1, content, c :: rest =>
    if c == quote then
      match rest with
      | d :: rest' =>
        if quote == singleQuote && d == singleQuote then
          quotedFrom quote fuel (content ++ [singleQuote]) rest'
        else .ok (content, d :: rest')
      | [] => .ok (content, [])
    else if quote == doubleQuote && c == '\\' then do
      let (added, rest') ← escape rest
      quotedFrom quote fuel (content ++ added) rest'
    else if isGap c then
      let blanks := (c :: rest).takeWhile isSpaceOrTab
      match (c :: rest).dropWhile isSpaceOrTab with
      | [] => .error .badSyntax
      | d :: rest' =>
        if isBreak d then do
          let (further, rest'') ← wellFormed (quotedBreaks? true rest')
          quotedFrom quote fuel (content ++ folded d further) rest''
        else quotedFrom quote fuel (content ++ blanks) (d :: rest')
    else quotedFrom quote fuel (content ++ [c]) rest

def quotedAt (quote : Char) (place : Place) : Except Refusal (List Char × Place) := do
  let (content, rest) ← quotedFrom quote place.rest.length [] (place.rest.drop 1)
  return (content, place.upTo rest.length)

end UtilityCss.Yaml
