import UtilityCss.Resolve.Cache

namespace UtilityCss

-- Callers put verdicts under labels, but a history may put one under any key.
instance : Coe String CacheKey := ⟨.label⟩

inductive CacheStep (n : Nat)
  | resolve (owner : Fin n) (scale value : String)
  | get (key : CacheKey)
  | put (key : CacheKey) (verdict : Verdict)
  | clear
deriving DecidableEq, Repr

namespace Cache

variable {n : Nat}

def step (contexts : Fin n → Context) (cache : Cache) : CacheStep n → Option Verdict × Cache
  | .resolve owner scale value =>
    let (verdict, next) := cache.resolveNamed owner (contexts owner) scale value
    (some verdict, next)
  | .get key => cache.get key
  | .put key verdict => (none, cache.put key verdict)
  | .clear => (none, cache.clear)

def run (contexts : Fin n → Context) : Cache → List (CacheStep n) → List (Option Verdict × Cache)
  | _, [] => []
  | cache, first :: rest =>
    let answer := cache.step contexts first
    answer :: run contexts answer.2 rest

end Cache
end UtilityCss
