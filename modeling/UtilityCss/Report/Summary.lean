import UtilityCss.Conversion.Basic

namespace UtilityCss

structure Summary where
  matched : Int
  total : Int
  percentage : Int
  nonArbitrary : Int
  categories : Entries String CategoryStats
  warningCounts : Entries String Int
  sampleClasses : List String
  sampleWarnings : List String
deriving DecidableEq, Repr

namespace Summary

def classLimit : Nat := 10
def warningLimit : Nat := 5

def of (conversions : List Conversion) : Except Error Summary := do
  let coverage ← Coverage.merge (conversions.map (·.coverage))
  return {
    matched := coverage.matched
    total := coverage.total
    percentage := coverage.percentage
    nonArbitrary := coverage.nonArbitrary
    categories := coverage.categories.getD []
    warningCounts := Coverage.mergeWarnings (conversions.map fun c => some c.warningCounts)
    sampleClasses := (conversions.flatMap (·.classes)).take classLimit
    sampleWarnings := (conversions.flatMap (·.warnings)).take warningLimit }

def share (percentage matched total : Int) : String :=
  toString percentage ++ "% (" ++ toString matched ++ "/" ++ toString total ++ ")"

def orNone (lines : List String) : List String := if lines.isEmpty then ["- none"] else lines

def categoryLines (summary : Summary) : List String :=
  (summary.categories.filter fun row => 0 < row.2.total).map fun row =>
    "- " ++ row.1 ++ ": " ++ share row.2.percentage row.2.matched row.2.total

def warningLines (summary : Summary) : List String :=
  (summary.warningCounts.filter fun row => 0 < row.2).map fun row =>
    "- " ++ row.1 ++ ": " ++ toString row.2

def classLine (summary : Summary) : String :=
  let joined := String.intercalate " " summary.sampleClasses
  if joined = "" then "(none)" else joined

def lines (summary : Summary) : List String :=
  ["# Tailwind Conversion Summary", "",
    "Overall Coverage: " ++ share summary.percentage summary.matched summary.total,
    "Non-arbitrary classes: " ++ toString summary.nonArbitrary, "", "## Coverage by Category"] ++
  orNone summary.categoryLines ++
  ["", "## Warnings by Category"] ++
  orNone summary.warningLines ++
  ["", "## Sample Classes", summary.classLine, "", "## Sample Warnings"] ++
  orNone (summary.sampleWarnings.map ("- " ++ ·))

def text (summary : Summary) : String := String.intercalate "\n" summary.lines ++ "\n"

end Summary
end UtilityCss
