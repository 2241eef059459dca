import UtilityCss.Class.Arbitrary
import UtilityCss.Resolve.Inquiry

namespace UtilityCss

structure Match where
  classes : List String
  warnings : List String
deriving DecidableEq, Repr

namespace Match

def none : Match := ⟨[], []⟩

-- No class, no match: a warning about a class that was not made is dropped with it.
def warned (name : String) (warning : Option String) : Match :=
  if name = "" then none
  else ⟨[name], match warning with
    | some text => if text = "" then [] else [text]
    | .none => []⟩

theorem warned_classes (name : String) (warning : Option String) (filled : name ≠ "") :
    (warned name warning).classes = [name] := by
  unfold warned
  rw [if_neg filled]

def single (name : String) : Match := warned name .none

instance : Append Match := ⟨fun a b => ⟨a.classes ++ b.classes, a.warnings ++ b.warnings⟩⟩

def isMatch (m : Match) : Bool := !m.classes.isEmpty

def ofVerdict (tokenClass : String → String) (stem value : String) (verdict : Verdict) : Match :=
  match verdict.token? with
  | some token => warned (tokenClass token) verdict.warning?
  | .none => warned (arbitraryClass stem value) verdict.warning?

end Match

abbrev Matcher := Context → String → Match

-- A matcher that leaves open what gives the verdicts. Besides these it may read the context.
abbrev Asker := Context → String → Inquiry Match

def Asker.matcher (asker : Asker) : Matcher := fun ctx value => (asker ctx value).judged ctx

def Matcher.asker (matcher : Matcher) : Asker := fun ctx value => .done (matcher ctx value)

@[simp] theorem Matcher.matcher_asker (matcher : Matcher) : matcher.asker.matcher = matcher := rfl

end UtilityCss
