namespace UtilityCss.Yaml

def isBreak (c : Char) : Bool :=
  c == '\n' || c.toNat == 0x85 || c.toNat == 0x2028 || c.toNat == 0x2029

def isSpaceOrTab (c : Char) : Bool := c == ' ' || c == '\t'

def isGap (c : Char) : Bool := isSpaceOrTab c || isBreak c

def isFlowMark (c : Char) : Bool :=
  c == ',' || c == '[' || c == ']' || c == '\x7b' || c == '\x7d'

def endsPart : List Char → Bool
  | [] => true
  | c :: _ => isGap c

def breakContent (c : Char) : Char := if c.toNat == 0x85 then '\n' else c

def isDocumentMark : List Char → Bool
  | '-' :: '-' :: '-' :: rest => endsPart rest
  | '.' :: '.' :: '.' :: rest => endsPart rest
  | _ => false

structure Place where
  rest : List Char
  index : Nat
  line : Nat
  column : Nat
deriving Repr

namespace Place

def start (cs : List Char) : Place := ⟨cs, 0, 0, 0⟩

def next (place : Place) : Place :=
  match place.rest with
  | [] => place
  | c :: rest =>
    if isBreak c then ⟨rest, place.index + 1, place.line + 1, 0⟩
    else if c.toNat == 0xfeff then ⟨rest, place.index + 1, place.line, place.column⟩
    else ⟨rest, place.index + 1, place.line, place.column + 1⟩

def advance : Nat → Place → Place
  | 0, place => place
  | count + 1, place => advance count place.next

def upTo (remaining : Nat) (place : Place) : Place :=
  place.advance (place.rest.length - remaining)

end Place

def gapLength : Bool → List Char → Nat
  | _, [] => 0
  | comment, c :: rest =>
    if isBreak c then gapLength false rest + 1
    else if comment then gapLength true rest + 1
    else if c == ' ' then gapLength false rest + 1
    else if c == '#' then gapLength true rest + 1
    else 0

end UtilityCss.Yaml
