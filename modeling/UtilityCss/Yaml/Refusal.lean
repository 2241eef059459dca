import UtilityCss.Error

namespace UtilityCss.Yaml

-- A text may also use what is not read here: anchors, aliases, tags, block scalars, merge keys and
-- timestamps. Such a text is refused whether it holds data or not.
inductive Refusal
  | badSyntax
  | noValue (e : Error)
  | unread
deriving DecidableEq, Repr

def wellFormed {α : Type} : Option α → Except Refusal α
  | some a => .ok a
  | none => .error .badSyntax

end UtilityCss.Yaml
