import UtilityCss.Class.Group
import UtilityCss.Class.Natural

namespace UtilityCss
open Text

def pseudoVariants : List String :=
  ["first", "last", "odd", "even", "visited", "hover", "focus", "focus-visible", "focus-within", "active",
    "disabled", "checked", "required", "invalid", "placeholder"]

def groupVariants : List String :=
  ["group-hover", "group-focus", "group-active", "group-focus-visible", "group-focus-within"]

def peerVariants : List String :=
  ["peer-focus", "peer-hover", "peer-active", "peer-checked", "peer-focus-visible", "peer-focus-within"]

structure VariantRank where
  tier : Nat
  place : Nat
deriving DecidableEq, Repr

instance : Ord VariantRank :=
  ⟨compareLex (compareOn VariantRank.tier) (compareOn VariantRank.place)⟩

-- Breakpoints in the order of the screens, then the known states, then those of a group and of a peer,
-- then all the rest on one rank.
def VariantRank.of (screens : List String) (variant : String) : VariantRank :=
  if screens.contains variant then ⟨0, screens.idxOf variant⟩
  else if pseudoVariants.contains variant then ⟨1, pseudoVariants.idxOf variant⟩
  else if beginsWith "group-" variant then ⟨2, groupVariants.idxOf variant⟩
  else if beginsWith "peer-" variant then ⟨3, peerVariants.idxOf variant⟩
  else ⟨4, 0⟩

namespace Group

def isStemChar (c : Char) : Bool := (0x61 ≤ c.toNat && c.toNat ≤ 0x7a) || c == '-'

def numberedStem? (cs : List Char) : Option (List Char) :=
  let stem := cs.takeWhile isStemChar
  match cs.dropWhile isStemChar with
  | c :: _ => if stem != [] && isDigit c then some stem else none
  | [] => none

def stemOfBare (cs : List Char) : List Char :=
  let outside := cs.takeWhile (· != '[')
  if outside != [] && outside.length < cs.length then outside
  else (numberedStem? cs).getD cs

def stemOfClass (name : String) : String :=
  String.ofList (stemOfBare (bare (Chain.parse name).base).toList)

end Group

-- Fewer variants first, then the ranks of the variants, their text, the group of the base, its stem, and
-- its natural order; the base itself decides what is left.
structure ClassKey where
  depth : Nat
  ranks : List VariantRank
  lead : String
  group : Nat
  stem : String
  parts : List NaturalPart
  base : String
deriving DecidableEq, Repr

namespace ClassKey

instance : Ord ClassKey :=
  ⟨compareLex (compareOn depth) <| compareLex (compareOn ranks) <| compareLex (compareOn lead) <|
    compareLex (compareOn group) <| compareLex (compareOn stem) <| compareLex (compareOn parts) <|
      compareOn base⟩

def of (screens : List String) (name : String) : Except Error ClassKey := do
  let chain := Chain.parse name
  let parts ← NaturalPart.key chain.base
  return {
    depth := chain.variants.length
    ranks := chain.variants.map (VariantRank.of screens)
    lead := Chain.lead chain.variants
    group := (Group.ofClass chain.base).number
    stem := Group.stemOfClass chain.base
    parts := parts
    base := chain.base }

end ClassKey

def defaultScreenNames : List String := ["sm", "md", "lg", "xl", "2xl"]

-- The distinct classes in their order. Every class needs a key, also when there is only one.
def sortClasses (screens classes : List String) : Except Error (List String) := do
  let keyed ← (distinctClasses classes).mapM fun name => do
    let key ← ClassKey.of screens name
    return (key, name)
  return (keyed.mergeSort fun a b => (compare a.1 b.1).isLE).map (·.2)

end UtilityCss
