import ReviewDiff.Cache.Seconds
import ReviewDiff.Settings.Basic

/-!
# Limits of the cache

A budget in bytes and a lifetime in seconds, neither of them zero or less.
-/

set_option autoImplicit false

namespace ReviewDiff

structure Limits where
  maxSize : Nat
  lifetime : Seconds
  maxSize_pos : 0 < maxSize
  lifetime_pos : lifetime.le (.whole 0) = false

namespace Limits

inductive Fault where
  | maxSize (found : Int)
  | lifetime (found : Seconds)
  deriving DecidableEq, Repr

def Fault.message : Fault → String
  | .maxSize found => s!"max_size_bytes must be positive (found: {found})"
  | .lifetime found => s!"ttl_seconds must be positive (found: {found.text})"

/-- The limits with the given budget and lifetime. -/
def make (maxSize : Int) (lifetime : Seconds) : Except Fault Limits :=
  if hSize : 0 < maxSize then
    if ht : lifetime.le (.whole 0) = false then
      .ok ⟨maxSize.toNat, lifetime, by omega, ht⟩
    else .error (.lifetime lifetime)
  else .error (.maxSize maxSize)

def ofSettings (s : CacheSettings) : Except Fault Limits := make s.maxSizeBytes (.double s.ttlSeconds)

end Limits

end ReviewDiff
