import ReviewDiff.Decimal.Fixed
import ReviewDiff.Json.Value

/-!
# Counts of the cache

A snapshot of how full the cache is and how it was used.
-/

set_option autoImplicit false

namespace ReviewDiff

structure CacheStats where
  entries : Int
  size : Int
  maxSize : Int
  hits : Int
  misses : Int
  evictions : Int
  expirations : Int
  deriving DecidableEq, Repr

namespace CacheStats

/-- The part of the budget in use is too large for a double. -/
inductive Fault where
  | tooLarge
  deriving DecidableEq, Repr

def Fault.message : Fault → String
  | .tooLarge => "integer division result too large for a float"

def utilization (s : CacheStats) : Except Fault Binary64 :=
  let share := Binary64.ofQuotient s.size s.maxSize
  if s.maxSize = 0 then .ok (.zero false)
  else if share.isFinite then .ok (share.timesNat 100)
  else .error .tooLarge

def summary (s : CacheStats) : Except Fault String := do
  let share := (← s.utilization).onePlace
  return s!"Diff cache: {s.entries} entries, {s.size}/{s.maxSize} bytes ({share}%), "
    ++ s!"{s.hits} hits, {s.misses} misses, {s.evictions} evicted, {s.expirations} expired"

def toJson (s : CacheStats) : Json :=
  .obj [("entries", .int s.entries), ("size_bytes", .int s.size),
    ("max_size_bytes", .int s.maxSize), ("hits", .int s.hits), ("misses", .int s.misses),
    ("evictions", .int s.evictions), ("expirations", .int s.expirations)]

end CacheStats

end ReviewDiff
