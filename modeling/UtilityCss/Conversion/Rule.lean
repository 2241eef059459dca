import UtilityCss.Class.Order
import UtilityCss.Property.Registry
import UtilityCss.Conversion.Basic

namespace UtilityCss
open Text Css

structure Contribution where
  property : String
  classes : List String
  warnings : List String
  isMatched : Bool
deriving DecidableEq, Repr

namespace Contribution

def noHandlerWarning (property value : String) : String :=
  "No direct Tailwind equivalent for '" ++ property ++ ": " ++ value ++ "'"

def notTransformedWarning (property value : String) : String :=
  "Could not transform: " ++ property ++ ": " ++ value

def unhandled (d : Declaration) : Contribution :=
  ⟨d.name, [], [noHandlerWarning d.name (trim d.value)], false⟩

def ofMatch (d : Declaration) (found : Match) : Contribution :=
  if found.isMatch then ⟨d.name, underVariants d.variants found.classes, found.warnings, true⟩
  else ⟨d.name, [], found.warnings ++ [notTransformedWarning d.name (trim d.value)], false⟩

theorem ofMatch_property (d : Declaration) (found : Match) : (ofMatch d found).property = d.name := by
  unfold ofMatch
  split <;> rfl

theorem ofMatch_isMatched (d : Declaration) (found : Match) : (ofMatch d found).isMatched = found.isMatch := by
  unfold ofMatch
  split
  · rename_i matching
    exact matching.symm
  · rename_i unmatched
    exact (Bool.eq_false_iff.mpr unmatched).symm

def of (registry : Registry) (ctx : Context) (d : Declaration) : Contribution :=
  if (Entries.find? d.name registry).isNone then unhandled d
  else ofMatch d (registry.matchDeclaration ctx d.name (trim d.value))

def ask (askers : Askers) (ctx : Context) (d : Declaration) : Inquiry Contribution :=
  if (Entries.find? d.name askers).isNone then return unhandled d
  else return ofMatch d (← askers.matchDeclaration ctx d.name (trim d.value))

end Contribution

namespace Conversion

-- The names of the screens from the narrowest to the widest, equal widths by name; the standard ones if
-- there are none.
def screenOrder (ctx : Context) : List String :=
  if ctx.screens.isEmpty then defaultScreenNames
  else (ctx.screens.mergeSort fun a b =>
    (compareLex (compareOn (·.2)) (compareOn (·.1)) a b).isLE).map (·.1)

def assemble (ctx : Context) (declarations : List Declaration) (contributions : List Contribution)
    (advisories : List String) : Except Error Conversion := do
  let matched := contributions.filter (·.isMatched)
  let digest := WarningDigest.of (contributions.flatMap (·.warnings) ++ advisories)
  let classes ← sortClasses (screenOrder ctx) (contributions.flatMap (·.classes))
  let categories ← categoryStats declarations (matched.map (·.property))
  let coverage ← Coverage.of matched.length declarations.length (countNonArbitrary classes)
    (some categories) (some digest.counts)
  return ⟨classes, digest.warnings, coverage⟩

def ofDeclarations (registry : Registry) (ctx : Context) (declarations : List Declaration) :
    Except Error Conversion :=
  assemble ctx declarations (declarations.map (Contribution.of registry ctx)) []

def selectorWarning (selector : String) : String :=
  "Selector '" ++ selector ++ "' was converted but may need manual adjustment"

def advisories (selector : String) : List String :=
  let selector := trim selector
  if selector = "" ∨ selector = "*" then [] else [selectorWarning selector]

def ofRule (registry : Registry) (ctx : Context) (rule : Rule) : Except Error Conversion :=
  assemble ctx rule.declarations (rule.declarations.map (Contribution.of registry ctx))
    (advisories rule.selector)

end Conversion

end UtilityCss
