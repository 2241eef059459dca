import UtilityCss.Text.Blank

namespace UtilityCss.Text

-- The depth is a plain counter: it does not tell kinds of brackets apart, and a closing bracket at depth 0
-- leaves it at 0.
structure Brackets where
  opens : Char → Bool
  closes : Char → Bool

def Brackets.all : Brackets := ⟨fun c => c == '[' || c == '(', fun c => c == ']' || c == ')'⟩

def Brackets.round : Brackets := ⟨(· == '('), (· == ')')⟩

def Brackets.none : Brackets := ⟨fun _ => false, fun _ => false⟩

def Brackets.step (brackets : Brackets) (depth : Nat) (c : Char) : Nat :=
  if brackets.opens c then depth + 1 else if brackets.closes c then depth - 1 else depth

def Brackets.depthAfter (brackets : Brackets) (depth : Nat) (cs : List Char) : Nat :=
  cs.foldl brackets.step depth

def consFirst (c : Char) : List (List Char) → List (List Char)
  | [] => [[c]]
  | piece :: pieces => (c :: piece) :: pieces

def splitOutside (brackets : Brackets) (separates : Char → Bool) : Nat → List Char → List (List Char)
  | _, [] => [[]]
  | depth, c :: rest =>
    let depth := brackets.step depth c
    if separates c && depth == 0 then [] :: splitOutside brackets separates depth rest
    else consFirst c (splitOutside brackets separates depth rest)

theorem splitOutside_ne_nil (brackets : Brackets) (separates : Char → Bool) (depth : Nat)
    (cs : List Char) : splitOutside brackets separates depth cs ≠ [] := by
  induction cs generalizing depth with
  | nil => simp [splitOutside]
  | cons c rest ih =>
    simp only [splitOutside]
    split
    · simp
    · cases splitOutside brackets separates (brackets.step depth c) rest <;> simp [consFirst]

def words (s : String) : List String :=
  ((splitOutside .none isBlank 0 s.toList).filter (· ≠ [])).map String.ofList

end UtilityCss.Text
