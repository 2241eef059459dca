import UtilityCss.Class.Arbitrary
import UtilityCss.Entries
import UtilityCss.Error
import UtilityCss.Number.Binary64
import UtilityCss.Report.Category

namespace UtilityCss

-- The share in percent, rounded half up. It is computed in binary64, and nothing of nothing is 0.
def percentage (matched total : Int) : Except Error Int :=
  if total ≤ 0 then .ok 0
  else
    let share := Binary64.ofQuotient (matched < 0) matched.natAbs total.natAbs
    if !share.isFinite then .error .quotientTooLarge
    else match (share * 100 + .ofQuotient false 1 2).floor? with
      | some rounded => .ok rounded
      | none => .error .infiniteInteger

structure CategoryStats where
  matched : Int
  total : Int
  percentage : Int
deriving DecidableEq, Repr

structure Coverage where
  matched : Int
  total : Int
  percentage : Int
  nonArbitrary : Int
  categories : Option (Entries String CategoryStats)
  warnings : Option (Entries String Int)
deriving DecidableEq, Repr

def CategoryStats.of (matched total : Int) : Except Error CategoryStats := do
  return ⟨matched, total, ← UtilityCss.percentage matched total⟩

def categoryTable (matched total : PropertyCategory → Int) :
    Except Error (Entries String CategoryStats) :=
  PropertyCategory.all.mapM fun category => do
    return (category.text, ← CategoryStats.of (matched category) (total category))

-- A declaration counts as matched if its property matched anywhere in the rule.
def categoryStats (declarations : List Css.Declaration) (matchedNames : List String) :
    Except Error (Entries String CategoryStats) :=
  let inCategory (category : PropertyCategory) (d : Css.Declaration) : Bool :=
    PropertyCategory.of d.property == category
  categoryTable
    (fun category => declarations.countP fun d =>
      inCategory category d && matchedNames.contains d.name)
    (fun category => declarations.countP (inCategory category))

-- The brackets of a variant count like those of a value.
def countNonArbitrary (classes : List String) : Nat := classes.countP fun name => !isArbitrary name

namespace Coverage

def zero : Coverage := ⟨0, 0, 0, 0, none, none⟩

def of (matched total nonArbitrary : Int) (categories : Option (Entries String CategoryStats))
    (warnings : Option (Entries String Int)) : Except Error Coverage := do
  return ⟨matched, total, ← UtilityCss.percentage matched total, nonArbitrary, categories, warnings⟩

def sum (numbers : List Int) : Int := numbers.foldl (· + ·) 0

def categoryEntry (category : PropertyCategory) (table : Option (Entries String CategoryStats)) :
    CategoryStats :=
  (table.bind (Entries.find? category.text)).getD ⟨0, 0, 0⟩

def mergeCategories (tables : List (Option (Entries String CategoryStats))) :
    Except Error (Entries String CategoryStats) :=
  categoryTable (fun category => sum (tables.map fun table => (categoryEntry category table).matched))
    (fun category => sum (tables.map fun table => (categoryEntry category table).total))

def warningEntry (category : WarningCategory) (counts : Option (Entries String Int)) : Int :=
  (counts.bind (Entries.find? category.text)).getD 0

def mergeWarnings (tables : List (Option (Entries String Int))) : Entries String Int :=
  WarningCategory.all.map fun category => (category.text, sum (tables.map (warningEntry category)))

def merge (coverages : List Coverage) : Except Error Coverage := do
  let categories ← mergeCategories (coverages.map (·.categories))
  of (sum (coverages.map (·.matched))) (sum (coverages.map (·.total)))
    (sum (coverages.map (·.nonArbitrary))) (some categories)
    (some (mergeWarnings (coverages.map (·.warnings))))

end Coverage
end UtilityCss
