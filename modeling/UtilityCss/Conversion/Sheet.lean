import UtilityCss.Conversion.Rule
import UtilityCss.Report.Columns
import UtilityCss.Report.Comparison
import UtilityCss.Report.Summary

namespace UtilityCss

structure Sheet where
  bySelector : Entries String Conversion
deriving DecidableEq, Repr

namespace Sheet

-- A later rule with the same selector takes the place of the earlier one.
def ofRules (registry : Registry) (ctx : Context) (rules : List Css.Rule) : Except Error Sheet := do
  let bySelector ← rules.foldlM (fun entries rule => do
    return Entries.put rule.selector (← Conversion.ofRule registry ctx rule) entries) []
  return ⟨bySelector⟩

def size (sheet : Sheet) : Nat := sheet.bySelector.length

def conversion (sheet : Sheet) (selector : String) : Except Error Conversion :=
  match Entries.find? selector sheet.bySelector with
  | some found => .ok found
  | none => .error (.unknownSelector selector)

def summary (sheet : Sheet) : Except Error Summary := Summary.of (sheet.bySelector.map (·.2))

end Sheet

structure Review where
  strict : Sheet
  approximate : Sheet
  comparison : Comparison
  columns : List Columns
deriving DecidableEq, Repr

def Context.asStrict (ctx : Context) : Context := { ctx with strict := true, approximate := false }

def Context.asApproximate (ctx : Context) : Context := { ctx with strict := false, approximate := true }

def Review.ofSheets (rules : List Css.Rule) (strict approximate : Sheet) : Except Error Review := do
  let comparison ← Comparison.of strict.bySelector approximate.bySelector
  let columns ← rules.mapM fun rule => do
    return Columns.of rule.declarations (← approximate.conversion rule.selector).classes
  return ⟨strict, approximate, comparison, columns⟩

def Review.of (registry : Registry) (ctx : Context) (rules : List Css.Rule) : Except Error Review := do
  let strict ← Sheet.ofRules registry ctx.asStrict rules
  let approximate ← Sheet.ofRules registry ctx.asApproximate rules
  ofSheets rules strict approximate

end UtilityCss
