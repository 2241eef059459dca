import UtilityCss.Report.Coverage
import UtilityCss.Report.Warning

namespace UtilityCss

structure Conversion where
  classes : List String
  warnings : List String
  coverage : Coverage
deriving DecidableEq, Repr

namespace Conversion

def empty : Conversion := ⟨[], [], .zero⟩

-- Without counters the warnings are counted again, each once that was given several times.
def warningCounts (conversion : Conversion) : Entries String Int :=
  match conversion.coverage.warnings with
  | some counts => counts
  | none => (WarningDigest.of conversion.warnings).counts

end Conversion
end UtilityCss
