import UtilityCss.Conversion.Sheet
import UtilityCss.Resolve.Session

namespace UtilityCss
open Css

namespace Conversion

-- The table outlives a run, and one that fails as well.
def through (askers : Askers) (owner : Nat) (ctx : Context) (declarations : List Declaration)
    (advice : List String) (cache : Cache) : Except Error Conversion × Cache :=
  let asked := (Inquiry.each (Contribution.ask askers ctx) declarations).through owner ctx cache
  (assemble ctx declarations asked.1 advice, asked.2)

def ofDeclarationsThrough (askers : Askers) (owner : Nat) (ctx : Context) (declarations : List Declaration)
    (cache : Cache) : Except Error Conversion × Cache :=
  through askers owner ctx declarations [] cache

def ofRuleThrough (askers : Askers) (owner : Nat) (ctx : Context) (rule : Rule) (cache : Cache) :
    Except Error Conversion × Cache :=
  through askers owner ctx rule.declarations (advisories rule.selector) cache

end Conversion

namespace Sheet

def placeThrough (askers : Askers) (owner : Nat) (ctx : Context) :
    List Rule → Entries String Conversion → Cache → Except Error (Entries String Conversion) × Cache
  | [], entries, cache => (.ok entries, cache)
  | rule :: rest, entries, cache =>
    match Conversion.ofRuleThrough askers owner ctx rule cache with
    | (.ok conversion, after) =>
      placeThrough askers owner ctx rest (Entries.put rule.selector conversion entries) after
    | (.error fault, after) => (.error fault, after)

def ofRulesThrough (askers : Askers) (owner : Nat) (ctx : Context) (rules : List Rule) (cache : Cache) :
    Except Error Sheet × Cache :=
  let placed := placeThrough askers owner ctx rules [] cache
  (placed.1.map Sheet.mk, placed.2)

-- A context that has no table of its own goes without one.
def run (askers : Askers) (ctx : Context) (rules : List Rule) : Except Error Sheet :=
  (ofRulesThrough askers 0 ctx rules (.new ctx.cached)).1

inductive Job (n : Nat)
  | table (action : CacheStep n)
  | convert (owner : Fin n) (rules : List Rule)
deriving DecidableEq, Repr

def session {n : Nat} (askers : Askers) (contexts : Fin n → Context) :
    List (Job n) → Cache → List (Option (Except Error Sheet))
  | [], _ => []
  | .table action :: rest, cache => none :: session askers contexts rest (cache.step contexts action).2
  | .convert owner rules :: rest, cache =>
    let sheet := ofRulesThrough askers owner (contexts owner) rules cache
    some sheet.1 :: session askers contexts rest sheet.2

end Sheet

def Review.run (askers : Askers) (ctx : Context) (rules : List Rule) : Except Error Review := do
  let strict := Sheet.ofRulesThrough askers 0 ctx.asStrict rules (.new ctx.cached)
  let approximate := Sheet.ofRulesThrough askers 1 ctx.asApproximate rules strict.2
  Review.ofSheets rules (← strict.1) (← approximate.1)

end UtilityCss
