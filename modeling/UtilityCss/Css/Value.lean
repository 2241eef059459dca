import UtilityCss.Text.Lowercase
import UtilityCss.Text.Split

namespace UtilityCss.Css
open Text

def startsProperNoun : List Char → Bool
  | a :: b :: _ =>
    (0x41 ≤ a.toNat && a.toNat ≤ 0x5a) && (0x61 ≤ b.toNat && b.toNat ≤ 0x7a)
  | _ => false

-- Function calls, quoted texts and names such as Inter mean something else in another case.
def keepsCase (cs : List Char) : Bool :=
  cs.any (fun c => c == '(' || c == '\x22' || c == '\x27') || startsProperNoun cs

def canonical (value : String) : String :=
  let trimmed := trim value
  if keepsCase trimmed.toList then trimmed else lowercase trimmed

def values (value : String) : List String :=
  ((splitOutside .round isBlank 0 (canonical value).toList).filter (· ≠ [])).map String.ofList

end UtilityCss.Css
