import UtilityCss.Error

namespace UtilityCss

structure FilePath where
  anchor : String
  names : List String
deriving DecidableEq, Repr

namespace FilePath

-- Exactly two slashes at the start are an anchor of their own; more are as good as one.
def anchorOf (cs : List Char) : String :=
  match (cs.takeWhile (· == '/')).length with
  | 0 => ""
  | 2 => "//"
  | _ => "/"

def isNamed (name : List Char) : Bool := name != [] && name != ['.']

def parse (s : String) : FilePath :=
  ⟨anchorOf s.toList, ((s.toList.splitOnP (· == '/')).filter isNamed).map String.ofList⟩

def text (path : FilePath) : String :=
  let joined := path.anchor ++ String.intercalate "/" path.names
  if joined = "" then "." else joined

def child (path : FilePath) (name : String) : FilePath := ⟨path.anchor, path.names ++ [name]⟩

def join (path other : FilePath) : FilePath :=
  if other.anchor = "" then ⟨path.anchor, path.names ++ other.names⟩ else other

def climb (names : List String) (name : String) : List String :=
  if name = ".." then names.dropLast else names ++ [name]

def resolved (path : FilePath) : FilePath := ⟨path.anchor, path.names.foldl climb []⟩

def upward (path : FilePath) : List FilePath :=
  (List.range (path.names.length + 1)).map fun n =>
    ⟨path.anchor, path.names.take (path.names.length - n)⟩

end FilePath

namespace Settings

def fileName : String := "tailwindify.yaml"
def variableName : String := "TAILWINDIFY_CONFIG"
def rootMarkers : List String := ["pyproject.toml", ".git"]

def isRoot (present : FilePath → Bool) (path : FilePath) : Bool :=
  rootMarkers.any fun marker => present (path.child marker)

def projectRoot (present : FilePath → Bool) (start : FilePath) : FilePath :=
  (start.resolved.upward.find? (isRoot present)).getD start.resolved

def location (given : String) (environment : List (String × String)) (present : FilePath → Bool)
    (start : FilePath) : FilePath :=
  if given ≠ "" then .parse given
  else match environment.find? fun setting => setting.1 == variableName && setting.2 != "" with
    | some setting => .parse setting.2
    | none => (projectRoot present start).child fileName

end Settings
end UtilityCss
