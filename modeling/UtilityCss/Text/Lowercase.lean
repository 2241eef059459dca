import UtilityCss.Text.CaseTable
import UtilityCss.Text.Digit

namespace UtilityCss.Text

def capitalSigma : Char := '\u03a3'

def isCased (c : Char) : Bool := inRanges casedRanges c.toNat
def isCaseIgnorable (c : Char) : Bool := inRanges caseIgnorableRanges c.toNat

def lowerCodePoint (n : Nat) : Nat :=
  match caseRuns.find? (·.covers n) with
  | some run => (Int.ofNat n + run.shift).toNat
  | none => n

def lowerAscii (c : Char) : Char :=
  if 0x41 ≤ c.toNat ∧ c.toNat ≤ 0x5a then Char.ofNat (c.toNat + 32) else c

def lowerChar (c : Char) : List Char :=
  if c.toNat < 0x80 then [lowerAscii c]
  else if c.toNat == 0x130 then ['i', Char.ofNat 0x307]
  else [Char.ofNat (lowerCodePoint c.toNat)]

def meetsCased (cs : List Char) : Bool :=
  match cs.dropWhile isCaseIgnorable with
  | c :: _ => isCased c
  | [] => false

-- The characters before the current one are given nearest first.
def lowerAfter : List Char → List Char → List Char
  | _, [] => []
  | before, c :: rest =>
    let here :=
      if c == capitalSigma then
        [if meetsCased before && !meetsCased rest then Char.ofNat 0x3c2 else Char.ofNat 0x3c3]
      else lowerChar c
    here ++ lowerAfter (c :: before) rest

-- Full lower-casing: I with a dot above becomes two characters, and a capital sigma at the end of a word
-- takes its final form.
def lowercase (s : String) : String := String.ofList (lowerAfter [] s.toList)

theorem toList_lowercase (s : String) : (lowercase s).toList = lowerAfter [] s.toList := by
  simp [lowercase]

end UtilityCss.Text
