import ReviewDiff.Cache.Table
import ReviewDiff.Work

/-!
# Work with a cache at hand

A desk is a cache, a clock and whatever else the work is about. A caller who asks for a key gets the
output kept for it. Otherwise it joins the computation in progress, or leads one itself: it takes
the key as in progress, computes, stores the result and then lets go of the key. A computation that
comes to a fault stores nothing. A result whose size cannot be told ends the work of its leader
before the key is let go of, so the key stays in progress for ever, and with it whoever joins.
-/

set_option autoImplicit false

namespace ReviewDiff

structure Desk (σ : Type) where
  outside : σ
  cache : DiffCache
  now : Seconds

namespace Desk

variable {σ α : Type}

def lift (t : Work σ α) : Work (Desk σ) α :=
  t.on outside fun outside desk => { desk with outside := outside }

def onCache (step : Seconds → DiffCache → α × DiffCache) : Work (Desk σ) α :=
  Work.change fun desk =>
    let (answer, cache) := step desk.now desk.cache
    (answer, { desk with cache := cache })

def advance (span : Seconds) : Work (Desk σ) Unit := do
  match (← Work.get).now.later? span with
  | some time => Work.modify fun desk => { desk with now := time }
  | none => Work.fail .tooLarge

end Desk

namespace DiffCache

variable {σ : Type}

/-- What a caller finds at the table of computations. -/
inductive Entrance where
  | kept (lines : List DiffLine)
  | joined (flight : Flight)
  | leads (flight : Flight) (started : Generation)
  deriving DecidableEq

/-- The entrance for a key that was not kept: an earlier computation may be in progress, or may have
ended since. -/
def enter (now : Seconds) (key : CacheKey) (c : DiffCache) : Entrance × DiffCache :=
  match c.inFlight.get? key with
  | some flight => (.joined flight, c)
  | none =>
    match c.lookup false now key with
    | (some lines, c) => (.kept lines, c)
    | (none, c) =>
      let (flight, c) := c.register key
      (.leads flight (c.generationOf key), c)

def sharedBy (outcome : Except Fault (List DiffLine)) : Except Fault (List DiffLine) :=
  outcome.mapError .computation

def leaderShare (outcome : Except Fault (List DiffLine)) : Except Fault (List DiffLine) :=
  outcome.mapError fun cause => if cause.isInterrupt then cause else .computation cause

def joiningRecord (key : CacheKey) : LogRecord :=
  .cache .debug ("Joining in-flight computation for " ++ key.text)

def computingRecord (key : CacheKey) : LogRecord := .cache .debug ("Computing " ++ key.text)

def failureRecord (key : CacheKey) (cause : Fault) : LogRecord :=
  .cache .warning ("Computation failed for " ++ key.text ++ ": " ++ cause.message)

def storingRecords (key : CacheKey) (limits : Limits) : Storing → List LogRecord
  | .invalidated =>
    [.cache .debug ("Not caching " ++ key.text ++ ": invalidated while computing")]
  | .tooLarge size =>
    [.cache .debug
      ("Not caching " ++ key.text ++ s!": {size} bytes exceeds budget of {limits.maxSize}")]
  | .stored evicted =>
    evicted.map fun e => .cache .debug ("Evicted " ++ e.key.text ++ s!" ({e.size} bytes)")
  | .unsized _ => []

/-- Ends a computation: keeps its result if there is one, and lets go of the key. The key of a result
without a size is never let go of. -/
def conclude (key : CacheKey) (started : Generation) (outcome : Except Fault (List DiffLine)) :
    Work (Desk σ) Unit := do
  match outcome with
  | .ok lines =>
    let desk ← Work.get
    match ← Desk.onCache (store key lines started) with
    | .unsized e => Work.fail (.unsized e)
    | storing =>
      (storingRecords key desk.cache.limits storing).forM Work.log
      Desk.onCache fun _ c => ((), c.unregister key)
  | .error cause =>
    Desk.onCache fun _ c => ((), c.unregister key)
    Work.log (failureRecord key cause)

def share (key : CacheKey) (compute : Work (Desk σ) (List DiffLine)) :
    Work (Desk σ) (List DiffLine) := do
  match ← Desk.onCache (fun now => enter now key) with
  | .kept lines => return lines
  | .joined _ =>
    Work.log (joiningRecord key)
    Work.fail .endless
  | .leads _ started =>
    Work.log (computingRecord key)
    let outcome ← compute.attempt
    conclude key started outcome
    Work.ofExcept (leaderShare outcome)

def getOrCompute (key : CacheKey) (compute : Work (Desk σ) (List DiffLine)) :
    Work (Desk σ) (List DiffLine) := do
  match ← Desk.onCache (fun now => lookup true now key) with
  | some lines => return lines
  | none => share key compute

def get (key : CacheKey) : Work (Desk σ) (Option (List DiffLine)) :=
  Desk.onCache fun now => lookup true now key

def dropPath (path : Points) : Work (Desk σ) Nat := do
  let count ← Desk.onCache fun _ => invalidate path
  Work.log (.cache .info (s!"Invalidated {count} cached diffs for " ++ path))
  return count

def dropAll : Work (Desk σ) Nat := do
  let count ← Desk.onCache fun _ => invalidateAll
  Work.log (.cache .info s!"Invalidated all cached diffs ({count} entries)")
  return count

end DiffCache

end ReviewDiff
