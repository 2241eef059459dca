import UtilityCss.Yaml.Value

namespace UtilityCss.Yaml

def afterDirectives? (versioned : Bool) (handles : List String) : List Mark → Option (List Mark)
  | .directive (.version major) :: rest =>
    if versioned || major != 1 then none else afterDirectives? true handles rest
  | .directive (.handle name) :: rest =>
    if handles.contains name then none else afterDirectives? versioned (name :: handles) rest
  | .directive .other :: rest => afterDirectives? versioned handles rest
  | marks => some marks

def afterDirectives (marks : List Mark) : Except Stop (List Mark) :=
  match afterDirectives? false [] marks with
  | some rest => .ok rest
  | none => .error .unexpected

def beginsNode : List Mark → Bool
  | [] => false
  | .documentStart :: _ => false
  | .documentEnd :: _ => false
  | .directive _ :: _ => false
  | _ => true

def checkEnd (marks : List Mark) : Except Stop Unit := do
  match marks.dropWhile (· == .documentEnd) with
  | [] => return ()
  | further =>
    let rest ← afterDirectives further
    .error (Node.stopAt rest)

def lastNode (marks : List Mark) : Except Stop Node := do
  let (node, rest) ← if beginsNode marks then Node.ofMarks marks else .ok (Node.empty, marks)
  checkEnd rest
  return node

def document (marks : List Mark) : Except Stop Node := do
  match marks with
  | [] => return Node.empty
  | .documentEnd :: _ => .error .unexpected
  | marks =>
    if beginsNode marks then lastNode marks
    else match ← afterDirectives marks with
      | .documentStart :: rest => lastNode rest
      | rest => .error (Node.stopAt rest)

-- The node of a document. What is wrong among the settled marks comes before the part without a value.
def Marks.node : Marks → Except Refusal Node
  | .all marks => (document marks).mapError fun _ => .badSyntax
  | .cut settled refusal =>
    match document settled with
    | .error .unexpected => .error .badSyntax
    | _ => .error refusal

def isAllowed (c : Char) : Bool :=
  let n := c.toNat
  n == 9 || n == 10 || n == 13 || (0x20 ≤ n && n ≤ 0x7e) || n == 0x85 ||
    (0xa0 ≤ n && n ≤ 0xfffd) || 0x10000 ≤ n

def unixLines : List Char → List Char
  | '\r' :: '\n' :: rest => '\n' :: unixLines rest
  | '\r' :: rest => '\n' :: unixLines rest
  | c :: rest => c :: unixLines rest
  | [] => []

def withoutMark : List Char → List Char
  | c :: rest => if c.toNat == 0xfeff then rest else c :: rest
  | [] => []

def read (text : String) : Except Refusal Data := do
  let cs := unixLines text.toList
  if cs.all isAllowed then
    let marks ← wellFormed (Marks.ofText? (withoutMark cs))
    let node ← marks.node
    node.read
  else .error .badSyntax

end UtilityCss.Yaml
