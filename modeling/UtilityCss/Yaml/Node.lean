import UtilityCss.Yaml.Mark

namespace UtilityCss.Yaml

inductive Node
  | plain (text : String)
  | quoted (text : String)
  | sequence (items : List Node)
  | mapping (pairs : List (Node × Node))

-- Marks run out before their end as well when the text behind them could not be read.
inductive Stop
  | unexpected
  | exhausted
deriving DecidableEq, Repr

namespace Node

def empty : Node := .plain ""

def stopAt : List Mark → Stop
  | [] => .exhausted
  | _ => .unexpected

def endsBlockValue : List Mark → Bool
  | .key :: _ => true
  | .value :: _ => true
  | .blockEnd :: _ => true
  | _ => false

def endsFlowValue (close : Mark) : List Mark → Bool
  | .comma :: _ => true
  | mark :: _ => mark == close
  | [] => false

def afterComma (first : Bool) (marks : List Mark) : Except Stop (List Mark) :=
  if first then .ok marks
  else match marks with
    | .comma :: rest => .ok rest
    | marks => .error (stopAt marks)

mutual
-- The node at the head of the marks. In a value of a mapping a sequence need not be indented.
def node (inBlock inMapping : Bool) : Nat → List Mark → Except Stop (Node × List Mark)
  | 0, _ => .error .unexpected
  | fuel + 1, marks =>
    match marks with
    | .plain text :: rest => .ok (.plain text, rest)
    | .quoted text :: rest => .ok (.quoted text, rest)
    | .flowSequence :: rest => flowItems true [] fuel rest
    | .flowMapping :: rest => flowPairs true [] fuel rest
    | .entry :: _ => if inMapping then looseItems [] fuel marks else .error .unexpected
    | .blockSequence :: rest => if inBlock then blockItems [] fuel rest else .error .unexpected
    | .blockMapping :: rest => if inBlock then blockPairs [] fuel rest else .error .unexpected
    | marks => .error (stopAt marks)

def blockItems (items : List Node) : Nat → List Mark → Except Stop (Node × List Mark)
  | 0, _ => .error .unexpected
  | fuel + 1, marks =>
    match marks with
    | .blockEnd :: rest => .ok (.sequence items.reverse, rest)
    | .entry :: .entry :: rest => blockItems (empty :: items) fuel (.entry :: rest)
    | .entry :: .blockEnd :: rest => .ok (.sequence (empty :: items).reverse, rest)
    | .entry :: rest => do
      let (item, rest) ← node true false fuel rest
      blockItems (item :: items) fuel rest
    | marks => .error (stopAt marks)

def looseItems (items : List Node) : Nat → List Mark → Except Stop (Node × List Mark)
  | 0, _ => .error .unexpected
  | fuel + 1, marks =>
    match marks with
    | .entry :: rest =>
      let isEmpty := match rest with
        | .entry :: _ => true
        | rest => endsBlockValue rest
      if isEmpty then looseItems (empty :: items) fuel rest
      else do
        let (item, rest) ← node true false fuel rest
        looseItems (item :: items) fuel rest
    | [] => .error .exhausted
    | marks => .ok (.sequence items.reverse, marks)

def blockPart : Nat → List Mark → Except Stop (Node × List Mark)
  | 0, _ => .error .unexpected
  | fuel + 1, marks => if endsBlockValue marks then .ok (empty, marks) else node true true fuel marks

def blockPairs (pairs : List (Node × Node)) : Nat → List Mark → Except Stop (Node × List Mark)
  | 0, _ => .error .unexpected
  | fuel + 1, marks =>
    match marks with
    | .blockEnd :: rest => .ok (.mapping pairs.reverse, rest)
    | .key :: rest => do
      let (key, rest) ← blockPart fuel rest
      let (value, rest) ← match rest with
        | .value :: rest => blockPart fuel rest
        | rest => .ok (empty, rest)
      blockPairs ((key, value) :: pairs) fuel rest
    | marks => .error (stopAt marks)

def flowPart (close : Mark) : Nat → List Mark → Except Stop (Node × List Mark)
  | 0, _ => .error .unexpected
  | fuel + 1, marks =>
    if endsFlowValue close marks then .ok (empty, marks) else node false false fuel marks

def flowPair (close : Mark) : Nat → List Mark → Except Stop ((Node × Node) × List Mark)
  | 0, _ => .error .unexpected
  | fuel + 1, marks => do
    let (key, rest) ← match marks with
      | .value :: _ => .ok (empty, marks)
      | marks => flowPart close fuel marks
    let (value, rest) ← match rest with
      | .value :: rest => flowPart close fuel rest
      | rest => .ok (empty, rest)
    return ((key, value), rest)

def flowItems (first : Bool) (items : List Node) :
    Nat → List Mark → Except Stop (Node × List Mark)
  | 0, _ => .error .unexpected
  | fuel + 1, marks =>
    match marks with
    | .flowSequenceEnd :: rest => .ok (.sequence items.reverse, rest)
    | .comma :: .flowSequenceEnd :: rest =>
      if first then .error .unexpected else .ok (.sequence items.reverse, rest)
    | marks => do
      let marks ← afterComma first marks
      match marks with
      | .key :: rest =>
        let (pair, rest) ← flowPair .flowSequenceEnd fuel rest
        flowItems false (.mapping [pair] :: items) fuel rest
      | marks =>
        let (item, rest) ← node false false fuel marks
        flowItems false (item :: items) fuel rest

def flowPairs (first : Bool) (pairs : List (Node × Node)) :
    Nat → List Mark → Except Stop (Node × List Mark)
  | 0, _ => .error .unexpected
  | fuel + 1, marks =>
    match marks with
    | .flowMappingEnd :: rest => .ok (.mapping pairs.reverse, rest)
    | .comma :: .flowMappingEnd :: rest =>
      if first then .error .unexpected else .ok (.mapping pairs.reverse, rest)
    | marks => do
      let marks ← afterComma first marks
      match marks with
      | .key :: rest =>
        let (pair, rest) ← flowPair .flowMappingEnd fuel rest
        flowPairs false (pair :: pairs) fuel rest
      | marks =>
        let (key, rest) ← node false false fuel marks
        flowPairs false ((key, empty) :: pairs) fuel rest
end

-- No node calls for more than four steps for each of its marks.
def stepsFor (marks : List Mark) : Nat := 4 * (marks.length + 1)

def ofMarks (marks : List Mark) : Except Stop (Node × List Mark) := node true false (stepsFor marks) marks

end Node
end UtilityCss.Yaml
