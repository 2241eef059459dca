import UtilityCss.Yaml.Node

namespace UtilityCss.Yaml.Node

-- The mark of a default value is a text where it is a key, and has no value elsewhere.
def defaultMark : String := "="

def scalar? : Node → Option (Except Refusal Scalar)
  | plain text => some (plainScalar text)
  | quoted text => some (.ok (.text text))
  | _ => none

def keyRefusals (depth : Nat) (key : Node) : List (Nat × Refusal) :=
  match key.scalar? with
  | some (.ok _) => []
  | some (.error refusal) => [(depth, refusal)]
  | none => [(depth, .badSyntax)]

mutual
-- All that is wrong with a node, each with the number of collections around it.
def refusals (depth : Nat) : Node → List (Nat × Refusal)
  | plain text =>
    if text = defaultMark then [(depth, .badSyntax)]
    else match plainScalar text with
      | .ok _ => []
      | .error refusal => [(depth, refusal)]
  | quoted _ => []
  | sequence items => itemRefusals (depth + 1) items
  | mapping pairs => pairRefusals (depth + 1) pairs
def itemRefusals (depth : Nat) : List Node → List (Nat × Refusal)
  | [] => []
  | item :: rest => item.refusals depth ++ itemRefusals depth rest
def pairRefusals (depth : Nat) : List (Node × Node) → List (Nat × Refusal)
  | [] => []
  | (key, value) :: rest => keyRefusals depth key ++ value.refusals depth ++ pairRefusals depth rest
end

-- NaN is one key here, however often it is written.
def sameKey (a b : Scalar) : Bool := a.sameKey b || a == b

def scalarOr (read : Except Refusal Scalar) : Scalar :=
  match read with
  | .ok s => s
  | .error _ => .null

mutual
def data : Node → Data
  | plain text => .scalar (scalarOr (plainScalar text))
  | quoted text => .text text
  | sequence items => .list (itemData items)
  | mapping pairs => .mapping (Entries.ofListBy sameKey (pairData pairs))
def itemData : List Node → List Data
  | [] => []
  | item :: rest => item.data :: itemData rest
def pairData : List (Node × Node) → List (Scalar × Data)
  | [] => []
  | (key, value) :: rest =>
    ((key.scalar?.map scalarOr).getD .null, value.data) :: pairData rest
end

-- Collections are filled from the outside to the inside, so the first of the outermost is found first.
def firstRefusal? (found : List (Nat × Refusal)) : Option Refusal :=
  match (found.map (·.1)).min? with
  | none => none
  | some depth => (found.find? (·.1 == depth)).map (·.2)

def read (node : Node) : Except Refusal Data :=
  match firstRefusal? (node.refusals 0) with
  | some refusal => .error refusal
  | none => .ok node.data

end UtilityCss.Yaml.Node
