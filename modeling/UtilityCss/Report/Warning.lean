import UtilityCss.Entries
import UtilityCss.Report.Category

namespace UtilityCss

-- Each warning is listed once, and the counters count every time that it was given.
structure WarningDigest where
  warnings : List String
  counts : Entries String Int
deriving DecidableEq, Repr

namespace WarningDigest

def counted (warning : String) (count : Nat) : String :=
  if 1 < count then warning ++ " (" ++ toString count ++ " occurrences)" else warning

def countIn (category : WarningCategory) (warnings : List String) : Nat :=
  warnings.countP fun warning => WarningCategory.of warning == category

def of (warnings : List String) : WarningDigest where
  warnings := warnings.eraseDups.map fun warning => counted warning (warnings.count warning)
  counts := WarningCategory.all.map fun category => (category.text, (countIn category warnings : Int))

end WarningDigest
end UtilityCss
