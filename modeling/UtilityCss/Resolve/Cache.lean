import UtilityCss.Resolve.Search

namespace UtilityCss
open Text

-- All of a context that a verdict depends on, with the value and the scale. The thresholds enter as
-- numbers: the two zeros make one key, and NaN equals no threshold of another context, so that a key with one
-- names its owner.
structure LookupKey where
  owner : Option Nat
  scale : ScaleName
  raw : String
  approximate : Bool
  strict : Bool
  version : LayerName
  thresholds : Thresholds
  current : Scale
  legacy : Scale
deriving DecidableEq, Repr

def Thresholds.asNumbers (t : Thresholds) : Thresholds :=
  ⟨t.spacing.unsignedZero, t.font.unsignedZero, t.radius.unsignedZero⟩

def Thresholds.anyNaN (t : Thresholds) : Bool := [t.spacing, t.font, t.radius].contains .nan

def LookupKey.of (owner : Nat) (ctx : Context) (scale : ScaleName) (raw : String) : LookupKey where
  owner := if ctx.thresholds.anyNaN then some owner else none
  scale := scale
  raw := raw
  approximate := ctx.approximate
  strict := ctx.strict
  version := ctx.version
  thresholds := ctx.thresholds.asNumbers
  current := ctx.scale .current scale
  legacy := ctx.scale .legacy scale

-- Callers may keep verdicts of their own under labels, which no lookup uses.
inductive CacheKey
  | lookup (key : LookupKey)
  | label (name : String)
deriving DecidableEq, Repr

-- A verdict depends on a context only through what the key holds, so a table may be shared by contexts that
-- differ in anything. Contexts that share one are numbered.
structure Cache where
  enabled : Bool
  entries : Entries CacheKey Verdict
  hits : Nat
  misses : Nat
deriving DecidableEq, Repr

namespace Cache

def new (enabled : Bool) : Cache := ⟨enabled, [], 0, 0⟩

def size (cache : Cache) : Nat := cache.entries.length

def get (cache : Cache) (key : CacheKey) : Option Verdict × Cache :=
  if !cache.enabled then (none, cache)
  else match Entries.find? key cache.entries with
    | some verdict => (some verdict, { cache with hits := cache.hits + 1 })
    | none => (none, { cache with misses := cache.misses + 1 })

def put (cache : Cache) (key : CacheKey) (verdict : Verdict) : Cache :=
  if cache.enabled then { cache with entries := Entries.put key verdict cache.entries } else cache

def clear (cache : Cache) : Cache := ⟨cache.enabled, [], 0, 0⟩

def hitRate (cache : Cache) : Binary64 :=
  let lookups := cache.hits + cache.misses
  if lookups = 0 then .zero else .ofQuotient false cache.hits lookups

def resolve (cache : Cache) (owner : Nat) (ctx : Context) (scale : ScaleName) (value : String) :
    Verdict × Cache :=
  let raw := trim value
  if raw = "" then (.silentMiss, cache)
  else match Profile.of? scale with
    | none => (.silentMiss, cache)
    | some profile =>
      let key := .lookup (LookupKey.of owner ctx scale raw)
      match cache.get key with
      | (some verdict, counted) => (verdict, counted)
      | (none, counted) =>
        let verdict := profile.resolve ctx raw
        (verdict, counted.put key verdict)

def resolveNamed (cache : Cache) (owner : Nat) (ctx : Context) (scale value : String) : Verdict × Cache :=
  match ScaleName.ofText? scale with
  | some name => cache.resolve owner ctx name value
  | none => (.silentMiss, cache)

end Cache
end UtilityCss
