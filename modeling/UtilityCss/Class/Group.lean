import UtilityCss.Class.Chain
import UtilityCss.Text.Search

namespace UtilityCss
open Text

inductive Group
  | layout
  | flexGrid
  | sizing
  | spacing
  | typography
  | background
  | border
  | effects
  | misc
deriving DecidableEq, Repr

namespace Group

def number : Group → Nat
  | layout => 1
  | flexGrid => 2
  | sizing => 3
  | spacing => 4
  | typography => 5
  | background => 6
  | border => 7
  | effects => 8
  | misc => 9

def label : Group → String
  | layout => "layout"
  | flexGrid => "flex-grid"
  | sizing => "sizing"
  | spacing => "spacing"
  | typography => "typography"
  | background => "background"
  | border => "border"
  | effects => "effects"
  | misc => "misc"

structure Family where
  group : Group
  names : List String
  stems : List String

-- A base is of the first family that holds it.
def families : List Family := [
  ⟨.layout,
    ["block", "inline", "inline-block", "flex", "inline-flex", "grid", "inline-grid", "hidden", "table",
      "table-row", "table-cell", "contents", "list-item", "flow-root", "container", "static", "fixed",
      "absolute", "relative", "sticky"],
    ["inset-", "top-", "right-", "bottom-", "left-", "overflow-", "object-", "aspect-"]⟩,
  ⟨.flexGrid,
    ["grow", "shrink", "grow-0", "shrink-0"],
    ["flex-", "items-", "justify-", "grid-", "gap-", "place-", "content-", "col-", "row-", "self-", "order-",
      "basis-"]⟩,
  ⟨.sizing, [], ["w-", "h-", "min-w-", "min-h-", "max-w-", "max-h-", "size-"]⟩,
  ⟨.spacing, [],
    ["m-", "mx-", "my-", "mt-", "mr-", "mb-", "ml-", "ms-", "me-", "p-", "px-", "py-", "pt-", "pr-", "pb-",
      "pl-", "ps-", "pe-", "space-x-", "space-y-"]⟩,
  ⟨.typography,
    ["underline", "overline", "line-through", "no-underline", "uppercase", "lowercase", "capitalize",
      "normal-case", "italic", "not-italic", "truncate"],
    ["font-", "text-", "leading-", "tracking-", "decoration-", "whitespace-", "underline-"]⟩,
  ⟨.background, [], ["bg-"]⟩,
  ⟨.border, ["border", "rounded", "outline"], ["border-", "rounded-", "outline-"]⟩,
  ⟨.effects, ["shadow", "filter", "isolate", "isolation-auto"],
    ["shadow-", "opacity-", "filter-", "mix-blend-"]⟩]

def Family.holds (family : Family) (base : String) : Bool :=
  family.names.contains base || beginsWithAny family.stems base

def bare (base : String) : String :=
  String.ofList ((base.toList.dropWhile (· == '!')).dropWhile (· == '-'))

def ofBare (base : String) : Group :=
  match families.find? (·.holds base) with
  | some family => family.group
  | none => .misc

def ofClass (name : String) : Group := ofBare (bare (Chain.parse name).base)

end Group

structure ClassToken extends Chain where
  group : Group
deriving DecidableEq, Repr

namespace ClassToken

def parse (name : String) : ClassToken :=
  let chain := Chain.parse name
  ⟨chain, Group.ofClass chain.base⟩

def render (token : ClassToken) : String := token.toChain.render

def lead (token : ClassToken) : String := Chain.lead token.variants

end ClassToken
end UtilityCss
