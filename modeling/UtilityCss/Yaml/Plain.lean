import UtilityCss.Data
import UtilityCss.Error
import UtilityCss.Yaml.Place
import UtilityCss.Yaml.Refusal

namespace UtilityCss.Yaml

def endsKey (inFlow : Bool) : List Char → Bool
  | [] => true
  | c :: _ => isGap c || (inFlow && isFlowMark c)

def runLength (inFlow : Bool) : List Char → Nat
  | [] => 0
  | c :: rest =>
    if isGap c || (c == ':' && endsKey inFlow rest) || (inFlow && (isFlowMark c || c == '?')) then 0
    else runLength inFlow rest + 1

-- The breaks and spaces before the next line with text: what the breaks contribute, and how long they
-- are; none if a document begins or ends there.
def foldedBreaks? : Bool → List Char → Option (List Char × Nat)
  | _, [] => some ([], 0)
  | lineStart, c :: rest =>
    if lineStart && isDocumentMark (c :: rest) then none
    else if c == ' ' then (foldedBreaks? false rest).map fun r => (r.1, r.2 + 1)
    else if isBreak c then (foldedBreaks? true rest).map fun r => (breakContent c :: r.1, r.2 + 1)
    else some ([], 0)

def folded (first : Char) (further : List Char) : List Char :=
  let first := breakContent first
  if first != '\n' then first :: further else if further.isEmpty then [' '] else further

structure PlainRun where
  text : List Char
  place : Place
  crossedLine : Bool

-- The rest of a plain scalar, whose text so far is given. Lines after the first have to be indented by
-- the margin at least, outside the flow style.
def plainFrom (inFlow : Bool) (margin : Nat) : Nat → List Char → Bool → Place → PlainRun
  | 0, text, crossed, place => ⟨text, place, crossed⟩
  | fuel + 1, text, crossed, place =>
    let length := runLength inFlow place.rest
    if length = 0 then ⟨text, place, crossed⟩
    else
      let run := place.rest.take length
      let place := place.advance length
      let crossed := false
      let text := text ++ run
      let spaces := place.rest.takeWhile (· == ' ')
      let after := place.advance spaces.length
      match after.rest with
      | c :: rest =>
        if isBreak c then
          if isDocumentMark rest then ⟨text, after.next, true⟩
          else match foldedBreaks? true rest with
            | none => ⟨text, after.next, true⟩
            | some (further, count) =>
              let below := after.next.advance count
              if below.rest.head? == some '#' || (!inFlow && below.column < margin) then
                ⟨text, below, true⟩
              else
                let text' := text ++ folded c further
                if runLength inFlow below.rest = 0 then ⟨text, below, true⟩
                else plainFrom inFlow margin fuel text' true below
        else if spaces.isEmpty || c == '#' || (!inFlow && after.column < margin) then
          ⟨text, after, crossed⟩
        else if runLength inFlow after.rest = 0 then ⟨text, after, crossed⟩
        else plainFrom inFlow margin fuel (text ++ spaces) crossed after
      | [] => ⟨text, after, crossed⟩

def plainAt (inFlow : Bool) (margin : Nat) (place : Place) : PlainRun :=
  plainFrom inFlow margin place.rest.length [] false place

def isAsciiDigit (c : Char) : Bool := 0x30 ≤ c.toNat && c.toNat ≤ 0x39
def isDigitOrBar (c : Char) : Bool := isAsciiDigit c || c == '_'

def nullNames : List String := ["", "~", "null", "Null", "NULL"]
def trueNames : List String := ["yes", "Yes", "YES", "true", "True", "TRUE", "on", "On", "ON"]
def falseNames : List String := ["no", "No", "NO", "false", "False", "FALSE", "off", "Off", "OFF"]

def digitIn (base : Nat) (c : Char) : Option Nat :=
  let n := c.toNat
  let value :=
    if isAsciiDigit c then n - 0x30
    else if 0x61 ≤ n && n ≤ 0x66 then n - 0x61 + 10
    else if 0x41 ≤ n && n ≤ 0x46 then n - 0x41 + 10
    else base
  if value < base then some value else none

def numberIn? (base : Nat) (cs : List Char) : Option Nat :=
  if cs.isEmpty then none
  else cs.foldlM (fun total c =>
    if c == '_' then some total else (digitIn base c).map (total * base + ·)) 0

def sixties? : List (List Char) → Option (List Nat)
  | [] => some []
  | part :: rest =>
    match part with
    | [d] => if isAsciiDigit d then (sixties? rest).map ((d.toNat - 0x30) :: ·) else none
    | [t, d] =>
      if isAsciiDigit t && t.toNat < 0x36 && isAsciiDigit d then
        (sixties? rest).map (((t.toNat - 0x30) * 10 + (d.toNat - 0x30)) :: ·)
      else none
    | _ => none

def withoutBars (cs : List Char) : List Char := cs.filter (· != '_')

def prefixed? (base : Nat) (cs : List Char) : Option (Except Error Nat) :=
  (numberIn? base cs).map fun n =>
    if (withoutBars cs).isEmpty then .error (.unreadableNumeral base "") else .ok n

def decimalNumber? (cs : List Char) : Option (Except Error Nat) :=
  (numberIn? 10 cs).map fun n =>
    let digits := (withoutBars cs).length
    if numeralLimit < digits then .error (.overlongNumeral digits) else .ok n

def magnitude? (cs : List Char) : Option (Except Error Nat) :=
  match cs with
  | ['0'] => some (.ok 0)
  | '0' :: 'b' :: digits => prefixed? 2 digits
  | '0' :: 'x' :: digits => prefixed? 16 digits
  | '0' :: digits => (numberIn? 8 digits).map .ok
  | c :: _ =>
    if !isAsciiDigit c then none
    else match cs.splitOnP (· == ':') with
      | [whole] => decimalNumber? whole
      | first :: parts => do
        let lead ← decimalNumber? first
        let sixties ← sixties? parts
        return lead.map fun n => sixties.foldl (fun total part => total * 60 + part) n
      | [] => none
  | [] => none

def int? (cs : List Char) : Option (Except Error Int) :=
  let (negative, body) := Decimal.takeSign cs
  (magnitude? body).map fun read => read.map fun n => if negative then - (n : Int) else n

def exponent? : List Char → Option Int
  | [] => some 0
  | e :: sign :: digits =>
    if (e == 'e' || e == 'E') && digits != [] && digits.all isAsciiDigit then
      if sign == '-' then some (- (numeralOf digits : Int))
      else if sign == '+' then some (numeralOf digits)
      else none
    else none
  | [_] => none
where
  numeralOf (digits : List Char) : Nat := Text.numeralValue digits

def decimal? (negative : Bool) (whole : List Char) (rest : List Char) : Option Binary64 := do
  let fraction := rest.takeWhile isDigitOrBar
  let shift ← exponent? (rest.dropWhile isDigitOrBar)
  return (Decimal.ofDigits negative (withoutBars whole) (withoutBars fraction) shift).toBinary64

-- A fraction in base sixty: each place counts sixty times the one after it. The worth of every place has
-- to be within the range of the format.
def sixtiesFraction (negative : Bool) (lead : List Char) (parts : List Nat) (last : List Char)
    (fraction : List Char) : Except Error Binary64 :=
  let number (whole fraction : List Char) : Binary64 :=
    (Decimal.ofDigits false (withoutBars whole) (withoutBars fraction) 0).toBinary64
  let digits := number last fraction :: (parts.reverse.map Binary64.ofNat ++ [number lead []])
  if !(Binary64.ofNat (Nat.pow 60 (parts.length + 1))).isFinite then .error .integerTooLarge
  else
    let total := (digits.foldl (fun (sum : Binary64 × Nat) digit =>
      (sum.1 + digit * Binary64.ofNat sum.2, sum.2 * 60)) (Binary64.zero, 1)).1
    .ok (if negative then total.negate else total)

def sixtiesFloat? (negative : Bool) (body : List Char) : Option (Except Error Binary64) := do
  let whole := body.takeWhile (· != '.')
  match body.dropWhile (· != '.'), whole.splitOnP (· == ':') with
  | '.' :: fraction, first :: parts =>
    if parts.isEmpty || !fraction.all isDigitOrBar || !startsNumber first || !first.all isDigitOrBar then
      none
    else
      let _ ← sixties? parts
      let middle ← sixties? parts.dropLast
      return sixtiesFraction negative first middle (parts.getLastD []) fraction
  | _, _ => none
where
  startsNumber : List Char → Bool
    | c :: _ => isAsciiDigit c
    | [] => false

def float? (cs : List Char) : Option (Except Error Binary64) :=
  let (negative, body) := Decimal.takeSign cs
  let signed := body.length != cs.length
  if [".inf", ".Inf", ".INF"].contains (String.ofList body) then some (.ok (.infinite negative))
  else if [".nan", ".NaN", ".NAN"].contains (String.ofList cs) then some (.ok .nan)
  else match body with
    | '.' :: d :: rest =>
      if !signed && isAsciiDigit d then (decimal? false [] (d :: rest)).map .ok else none
    | d :: _ =>
      if !isAsciiDigit d then none
      else match body.dropWhile isDigitOrBar with
        | '.' :: rest => (decimal? negative (body.takeWhile isDigitOrBar) rest).map .ok
        | ':' :: _ => sixtiesFloat? negative body
        | _ => none
    | [] => none

def afterDigits? (least most : Nat) (cs : List Char) : Option (List Char) :=
  let run := (cs.take most).takeWhile isAsciiDigit
  if run.length < least then none else some (cs.drop run.length)

def afterMark? (mark : Char) (cs : List Char) : Option (List Char) :=
  if cs.head? == some mark then some (cs.drop 1) else none

def afterDate? (least : Nat) (cs : List Char) : Option (List Char) := do
  let month ← afterMark? '-' (← afterDigits? 4 4 cs)
  let day ← afterMark? '-' (← afterDigits? least 2 month)
  afterDigits? least 2 day

def afterTime? (cs : List Char) : Option (List Char) := do
  let minute ← afterMark? ':' (← afterDigits? 1 2 cs)
  let second ← afterMark? ':' (← afterDigits? 2 2 minute)
  let rest ← afterDigits? 2 2 second
  return if rest.head? == some '.' then (rest.drop 1).dropWhile isAsciiDigit else rest

def isZone (cs : List Char) : Bool :=
  match cs.dropWhile isSpaceOrTab with
  | [] => cs.isEmpty
  | ['Z'] => true
  | sign :: rest => (sign == '-' || sign == '+') &&
    match afterDigits? 1 2 rest with
    | some [] => true
    | some (':' :: minutes) => afterDigits? 2 2 minutes == some []
    | _ => false

def isTimestamp (cs : List Char) : Bool :=
  afterDate? 2 cs == some [] ||
    match afterDate? 1 cs with
    | some (c :: rest) =>
      let time := if c == 'T' || c == 't' then rest else (c :: rest).dropWhile isSpaceOrTab
      time.length ≤ rest.length && (afterTime? time).any isZone
    | _ => false

def mergeMark : String := "<<"

def plainScalar (text : String) : Except Refusal Scalar :=
  if nullNames.contains text then .ok .null
  else if trueNames.contains text then .ok (.bool true)
  else if falseNames.contains text then .ok (.bool false)
  else match float? text.toList with
    | some read => (read.map .float).mapError .noValue
    | none => match int? text.toList with
      | some read => (read.map .int).mapError .noValue
      | none =>
        if text = mergeMark || isTimestamp text.toList then .error .unread else .ok (.text text)

end UtilityCss.Yaml
