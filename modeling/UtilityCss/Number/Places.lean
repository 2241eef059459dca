import UtilityCss.Number.Binary64

namespace UtilityCss

def padLeft (width : Nat) (s : String) : String :=
  String.ofList (List.replicate (width - s.length) '0') ++ s

def pointed (places scaled : Nat) : String :=
  if places = 0 then toString scaled
  else toString (scaled / tenTo places) ++ "." ++ padLeft places (toString (scaled % tenTo places))

-- The last place is rounded to nearest on the exact value, with ties to even.
def Binary64.fixed (places : Nat) : Binary64 → String
  | .finite negative units =>
    (if negative then "-" else "") ++ pointed places (nearest (units * tenTo places) one)
  | .infinite negative => if negative then "-inf" else "inf"
  | .nan => "nan"

end UtilityCss
