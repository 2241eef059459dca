import UtilityCss.Text.Split

namespace UtilityCss
open Text

-- A class with its variants, such as md:hover:p-4. A colon inside brackets belongs to the base.
structure Chain where
  variants : List String
  base : String
deriving DecidableEq, Repr

namespace Chain

def pieces (name : String) : List String :=
  (splitOutside .all (· == ':') 0 name.toList).map String.ofList

def parse (name : String) : Chain :=
  ⟨(pieces name).dropLast, (pieces name).getLastD ""⟩

def lead (variants : List String) : String := String.join (variants.map (· ++ ":"))

def render (chain : Chain) : String := lead chain.variants ++ chain.base

def distinct (variants : List String) : List String := variants.eraseDups

def collapse (name : String) : String :=
  let chain := parse name
  render ⟨distinct chain.variants, chain.base⟩

end Chain

def underVariant (variant : String) (classes : List String) : List String :=
  if variant = "" then classes else classes.map fun name => variant ++ ":" ++ name

def underVariants (variants classes : List String) : List String :=
  let kept := (variants.map trim).filter (· ≠ "")
  classes.map fun name => Chain.lead kept ++ name

def distinctClasses (classes : List String) : List String :=
  (((classes.filter (· ≠ "")).map fun name => Chain.collapse (trim name)).filter (· ≠ "")).eraseDups

end UtilityCss
