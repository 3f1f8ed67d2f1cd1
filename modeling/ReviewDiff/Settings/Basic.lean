import ReviewDiff.Json.Value
import ReviewDiff.Log.Record

/-!
# Settings

What applies when a request does not say otherwise: the context around a change and the old side of
a comparison, the budget and the lifetime of the diff cache, and the level of the log.
-/

set_option autoImplicit false

namespace ReviewDiff

structure DiffSettings where
  contextLines : Nat
  defaultOldRef : String
  deriving DecidableEq, Repr

def DiffSettings.default : DiffSettings := ⟨3, "HEAD"⟩

structure CacheSettings where
  enabled : Bool
  maxSizeBytes : Nat
  ttlSeconds : Binary64
  budget_pos : 0 < maxSizeBytes
  lifetime_pos : ttlSeconds.isPositive = true
  deriving DecidableEq, Repr

/-- One hour in seconds. -/
def oneHour : Binary64 := ⟨0x40AC200000000000⟩

def CacheSettings.default : CacheSettings :=
  ⟨true, 64 * 1024 * 1024, oneHour, by decide, by decide⟩

structure LogSettings where
  level : Level
  deriving DecidableEq, Repr

def LogSettings.default : LogSettings := ⟨.info⟩

structure Settings where
  diff : DiffSettings
  cache : CacheSettings
  log : LogSettings
  deriving DecidableEq, Repr

namespace Settings

def default : Settings := ⟨.default, .default, .default⟩

/-- The document that holds the settings. -/
def toJson (s : Settings) : Json :=
  .obj [
    ("diff", .obj [("context_lines", .int s.diff.contextLines),
      ("default_old_ref", .str s.diff.defaultOldRef)]),
    ("cache", .obj [("enabled", .bool s.cache.enabled),
      ("max_size_bytes", .int s.cache.maxSizeBytes), ("ttl_seconds", .float s.cache.ttlSeconds)]),
    ("log", .obj [("level", .str s.log.level.name)])]

end Settings

end ReviewDiff
