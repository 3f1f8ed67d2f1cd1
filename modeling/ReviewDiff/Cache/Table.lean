import ReviewDiff.Cache.Key
import ReviewDiff.Cache.Limits
import ReviewDiff.Cache.Stats
import ReviewDiff.Diff.Stats
import ReviewDiff.Log.Record

/-!
# The cache of diff output

The table of entries, the least recently used first, and the table of computations in progress. Each
function here is one atomic step: what it reads and writes nobody else touches meanwhile. The clock
is read before a step, so the time is an argument.

An entry is charged for its size, is served until its lifetime is over, and is dropped when its path
is invalidated. A path has a generation that every invalidation raises; a result is stored only if
the generation is the one that its computation started in. The size of a result is told before
anything else is looked at, and without a size there is nothing to store.
-/

set_option autoImplicit false

namespace ReviewDiff

structure CacheEntry where
  key : CacheKey
  lines : List DiffLine
  size : Nat
  createdAt : Seconds
  lastAccess : Seconds
  deriving DecidableEq

/-- How many invalidations there were, of everything and, since the last of those, of one path. -/
structure Generation where
  whole : Nat
  path : Nat
  deriving DecidableEq, Repr

abbrev Flight := Nat

structure DiffCache where
  limits : Limits
  entries : List CacheEntry
  size : Int
  generation : Nat
  pathGenerations : Assoc Points Nat
  hits : Nat
  misses : Nat
  evictions : Nat
  expirations : Nat
  inFlight : Assoc CacheKey Flight
  nextFlight : Flight

namespace DiffCache

def empty (limits : Limits) : DiffCache := ⟨limits, [], 0, 0, [], 0, 0, 0, 0, [], 0⟩

def isExpired (c : DiffCache) (now : Seconds) (e : CacheEntry) : Bool :=
  c.limits.lifetime.le (now.sub e.createdAt)

def find? (c : DiffCache) (key : CacheKey) : Option CacheEntry :=
  c.entries.find? fun e => e.key = key

def contains (c : DiffCache) (now : Seconds) (key : CacheKey) : Bool :=
  (c.find? key).any fun e => !c.isExpired now e

def totalSize : List CacheEntry → Int
  | [] => 0
  | e :: rest => e.size + totalSize rest

def dropIf (c : DiffCache) (test : CacheEntry → Bool) : DiffCache :=
  { c with
    entries := c.entries.filter fun e => !test e
    size := c.size - totalSize (c.entries.filter test) }

def drop (c : DiffCache) (key : CacheKey) : DiffCache := c.dropIf fun e => e.key = key

def touch (c : DiffCache) (now : Seconds) (e : CacheEntry) : DiffCache :=
  { c with
    entries := (c.entries.filter fun other => !decide (other.key = e.key))
      ++ [{ e with lastAccess := now }] }

def countMiss (counted : Bool) (c : DiffCache) : DiffCache :=
  if counted then { c with misses := c.misses + 1 } else c

def countHit (counted : Bool) (c : DiffCache) : DiffCache :=
  if counted then { c with hits := c.hits + 1 } else c

/-- The output kept for a key. A hit is the latest use of its entry; an entry past its lifetime is
dropped. -/
def lookup (counted : Bool) (now : Seconds) (key : CacheKey) (c : DiffCache) :
    Option (List DiffLine) × DiffCache :=
  match c.find? key with
  | none => (none, c.countMiss counted)
  | some e =>
    if c.isExpired now e then
      (none, ({ c.drop key with expirations := c.expirations + 1 }).countMiss counted)
    else (some e.lines, (c.touch now e).countHit counted)

def generationOf (c : DiffCache) (key : CacheKey) : Generation :=
  ⟨c.generation, (c.pathGenerations.get? key.path.value).getD 0⟩

def register (key : CacheKey) (c : DiffCache) : Flight × DiffCache :=
  (c.nextFlight,
    { c with inFlight := c.inFlight.put key c.nextFlight, nextFlight := c.nextFlight + 1 })

def unregister (key : CacheKey) (c : DiffCache) : DiffCache :=
  { c with inFlight := c.inFlight.remove key }

def sweep (now : Seconds) (c : DiffCache) : DiffCache :=
  { c.dropIf (c.isExpired now) with
    expirations := c.expirations + (c.entries.filter (c.isExpired now)).length }

/-- The shortest front of entries whose removal brings a size within a limit, and the rest. -/
def excess (limit : Int) : (size : Int) → List CacheEntry → List CacheEntry × List CacheEntry
  | _, [] => ([], [])
  | size, e :: rest =>
    if limit < size then
      let (out, kept) := excess limit (size - e.size) rest
      (e :: out, kept)
    else ([], e :: rest)

def evict (c : DiffCache) : List CacheEntry × DiffCache :=
  let (out, kept) := excess c.limits.maxSize c.size c.entries
  (out, { c with
    entries := kept, size := c.size - totalSize out, evictions := c.evictions + out.length })

/-- What became of a result: its size is estimated before anything else is asked. -/
inductive Storing where
  | stored (evicted : List CacheEntry)
  | invalidated
  | tooLarge (size : Nat)
  | unsized (e : Unencodable)
  deriving DecidableEq

def insert (e : CacheEntry) (c : DiffCache) : DiffCache :=
  { c with entries := c.entries ++ [e], size := c.size + e.size }

/-- Stores the result of a computation that started in a generation. -/
def store (key : CacheKey) (lines : List DiffLine) (started : Generation) (now : Seconds)
    (c : DiffCache) : Storing × DiffCache :=
  match estimateSize lines with
  | .error e => (.unsized e, c)
  | .ok size =>
    if started ≠ c.generationOf key then (.invalidated, c)
    else if c.limits.maxSize < size then (.tooLarge size, c)
    else
      let (out, kept) := (((c.drop key).insert ⟨key, lines, size, now, now⟩).sweep now).evict
      (.stored out, kept)

/-- Drops all entries of a path; answers how many there were. -/
def invalidate (path : Points) (c : DiffCache) : Nat × DiffCache :=
  let isOf (e : CacheEntry) : Bool := e.key.path.value = path
  ((c.entries.filter isOf).length,
    { c.dropIf isOf with
      pathGenerations :=
        c.pathGenerations.put path ((c.pathGenerations.get? path).getD 0 + 1) })

def invalidateAll (c : DiffCache) : Nat × DiffCache :=
  (c.entries.length,
    { c with entries := [], size := 0, pathGenerations := [], generation := c.generation + 1 })

def stats (c : DiffCache) : CacheStats :=
  ⟨c.entries.length, c.size, c.limits.maxSize, c.hits, c.misses, c.evictions, c.expirations⟩

end DiffCache

end ReviewDiff
