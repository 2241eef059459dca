import UtilityCss.Yaml.Plain
import UtilityCss.Yaml.Refusal

namespace UtilityCss.Yaml

inductive Directive
  | version (major : Nat)
  | handle (name : String)
  | other
deriving DecidableEq, Repr

namespace Directive

def isNameChar (c : Char) : Bool := c.isAlphanum || c == '-' || c == '_'

def isUriChar (c : Char) : Bool := c.isAlphanum || "-;/?:@&=+$,_.!~*'()[]".toList.contains c

def afterSpaces (cs : List Char) : List Char := cs.dropWhile (· == ' ')

def endsWord (cs : List Char) : Bool := cs.isEmpty || cs.head? == some ' '

def endsContent (cs : List Char) : Bool :=
  endsWord cs && ((afterSpaces cs).isEmpty || (afterSpaces cs).head? == some '#')

def number (cs : List Char) : Except Refusal (Nat × List Char) :=
  let digits := cs.takeWhile isAsciiDigit
  if digits.isEmpty then .error .badSyntax
  else if numeralLimit < digits.length then .error (.noValue (.overlongNumeral digits.length))
  else .ok (Text.numeralValue digits, cs.dropWhile isAsciiDigit)

def versionOf (cs : List Char) : Except Refusal Directive := do
  let (major, rest) ← number (afterSpaces cs)
  match rest with
  | '.' :: rest =>
    let (_, rest) ← number rest
    if endsContent rest then return version major else .error .badSyntax
  | _ => .error .badSyntax

def handle? : List Char → Option (List Char × List Char)
  | '!' :: rest =>
    if rest.head? == some ' ' then some (['!'], rest)
    else match rest.dropWhile isNameChar with
      | '!' :: rest' => some ('!' :: rest.takeWhile isNameChar ++ ['!'], rest')
      | _ => none
  | _ => none

def afterUri? : List Char → Option (List Char)
  | '%' :: a :: b :: rest =>
    if (digitIn 16 a).isSome && (digitIn 16 b).isSome then afterUri? rest else none
  | '%' :: _ => none
  | c :: rest => if isUriChar c then afterUri? rest else some (c :: rest)
  | [] => some []

def handleOf? (cs : List Char) : Option Directive := do
  let (name, rest) ← handle? (afterSpaces cs)
  let address := afterSpaces rest
  let after ← afterUri? address
  if rest.head? == some ' ' && after.length < address.length && endsContent after then
    some (handle (String.ofList name))
  else none

def ofLine (line : List Char) : Except Refusal Directive :=
  let name := String.ofList (line.takeWhile isNameChar)
  let rest := line.dropWhile isNameChar
  if name = "" || !endsWord rest then .error .badSyntax
  else if name = "YAML" then versionOf rest
  else if name = "TAG" then wellFormed (handleOf? rest)
  else .ok other

end Directive
end UtilityCss.Yaml
