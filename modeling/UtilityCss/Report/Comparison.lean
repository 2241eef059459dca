import UtilityCss.Conversion.Basic

namespace UtilityCss

structure SelectorComparison where
  selector : String
  strictClasses : List String
  approximateClasses : List String
  classesDiff : Int
  strictCoverage : Int
  approximateCoverage : Int
deriving DecidableEq, Repr

structure Comparison where
  strictCoverage : Binary64
  approximateCoverage : Binary64
  coverageDiff : Binary64
  strictWarnings : Nat
  approximateWarnings : Nat
  selectors : List SelectorComparison
deriving DecidableEq, Repr

namespace Comparison

def averageCoverage (results : Entries String Conversion) : Except Error Binary64 :=
  if results.isEmpty then .ok .zero
  else
    let total := Coverage.sum (results.map (·.2.coverage.percentage))
    let mean := Binary64.ofQuotient (total < 0) total.natAbs results.length
    if mean.isFinite then .ok mean else .error .quotientTooLarge

def warningCount (results : Entries String Conversion) : Nat :=
  results.foldl (fun count row => count + row.2.warnings.length) 0

def row (strict approximate : Entries String Conversion) (selector : String) : SelectorComparison :=
  let a := (Entries.find? selector strict).getD .empty
  let b := (Entries.find? selector approximate).getD .empty
  ⟨selector, a.classes, b.classes, b.classes.length - a.classes.length, a.coverage.percentage,
    b.coverage.percentage⟩

def of (strict approximate : Entries String Conversion) : Except Error Comparison := do
  let strictCoverage ← averageCoverage strict
  let approximateCoverage ← averageCoverage approximate
  return {
    strictCoverage := strictCoverage
    approximateCoverage := approximateCoverage
    coverageDiff := approximateCoverage - strictCoverage
    strictWarnings := warningCount strict
    approximateWarnings := warningCount approximate
    selectors := (Entries.keys strict ++ Entries.keys approximate).eraseDups.map
      (row strict approximate) }

end Comparison
end UtilityCss
