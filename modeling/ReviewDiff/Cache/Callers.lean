import ReviewDiff.Cache.Desk

/-!
# Callers of one cache

Many callers use one cache at once. Each goes its own way through the phases below, one atomic step
at a time, and the steps of different callers come in any order. Two locks order them: the one of the
table of computations is held over several steps and its holder is part of the state; the one of the
entries is held within a step only. A computation runs between two steps, with no lock held.

A caller reads the clock in one step and uses the time in the next, so the time may be old by then.
A leader whose result has no size leaves its key behind in the table, and nobody ever takes it out.
-/

set_option autoImplicit false

namespace ReviewDiff

abbrev Caller := Nat

inductive Phase where
  | idle
  | getting (key : CacheKey)
  | peeking (key : CacheKey) (now : Seconds)
  | got (lines : Option (List DiffLine))
  | asking (key : CacheKey)
  | looking (key : CacheKey) (now : Seconds)
  | missed (key : CacheKey)
  | holding (key : CacheKey)
  | checking (key : CacheKey) (now : Seconds)
  | alone (key : CacheKey)
  | registered (key : CacheKey) (flight : Flight)
  | computing (key : CacheKey) (flight : Flight) (started : Generation)
  | computed (key : CacheKey) (flight : Flight) (started : Generation) (lines : List DiffLine)
  | storing (key : CacheKey) (flight : Flight) (started : Generation) (lines : List DiffLine)
    (now : Seconds)
  | stored (key : CacheKey) (flight : Flight) (lines : List DiffLine)
  | failed (key : CacheKey) (flight : Flight) (cause : Fault)
  /-- The key is no longer in progress; those who joined do not know the outcome yet. -/
  | withdrawn (key : CacheKey) (flight : Flight) (outcome : Except Fault (List DiffLine))
  | waiting (flight : Flight)
  | answered (outcome : Except Fault (List DiffLine))

/-- Where a leader stands after a store. One whose result has no size ends there and then. -/
def DiffCache.Storing.phase (key : CacheKey) (flight : Flight) (lines : List DiffLine) :
    DiffCache.Storing → Phase
  | .unsized e => .answered (.error (.unsized e))
  | _ => .stored key flight lines

structure Callers where
  cache : DiffCache
  now : Seconds
  holder : Option Caller
  phase : Caller → Phase
  outcomes : Assoc Flight (Except Fault (List DiffLine))

inductive Happening where
  | tick (time : Seconds)
  | get (who : Caller) (key : CacheKey)
  | ask (who : Caller) (key : CacheKey)
  | step (who : Caller)
  | result (who : Caller) (outcome : Except Fault (List DiffLine))
  | contains (key : CacheKey)
  | invalidate (path : Points)
  | invalidateAll

namespace Callers

def start (limits : Limits) : Callers := ⟨.empty limits, .whole 0, none, fun _ => .idle, []⟩

def turn (w : Callers) (who : Caller) (phase : Phase) : Callers :=
  { w with phase := fun other => if other = who then phase else w.phase other }

def turnWith (w : Callers) (who : Caller) (next : Phase × DiffCache) : Callers :=
  { w.turn who next.1 with cache := next.2 }

def takeTable (w : Callers) (who : Caller) (key : CacheKey) : Option Callers :=
  match w.holder, w.cache.inFlight.get? key with
  | some _, _ => none
  | none, some flight => some (w.turn who (.waiting flight))
  | none, none => some { w.turn who (.holding key) with holder := some who }

def withdraw (w : Callers) (who : Caller) (key : CacheKey) (flight : Flight)
    (outcome : Except Fault (List DiffLine)) : Option Callers :=
  match w.holder with
  | some _ => none
  | none => some (w.turnWith who (.withdrawn key flight outcome, w.cache.unregister key))

/-- The next step of a caller; none if it has none or has to wait. -/
def step (w : Callers) (who : Caller) : Option Callers :=
  match w.phase who with
  | .getting key => some (w.turn who (.peeking key w.now))
  | .peeking key now =>
    let (lines, cache) := w.cache.lookup true now key
    some (w.turnWith who (.got lines, cache))
  | .asking key => some (w.turn who (.looking key w.now))
  | .looking key now =>
    match w.cache.lookup true now key with
    | (some lines, cache) => some (w.turnWith who (.answered (.ok lines), cache))
    | (none, cache) => some (w.turnWith who (.missed key, cache))
  | .missed key => w.takeTable who key
  | .holding key => some (w.turn who (.checking key w.now))
  | .checking key now =>
    match w.cache.lookup false now key with
    | (some lines, cache) =>
      some { w.turnWith who (.answered (.ok lines), cache) with holder := none }
    | (none, cache) => some (w.turnWith who (.alone key, cache))
  | .alone key =>
    let (flight, cache) := w.cache.register key
    some (w.turnWith who (.registered key flight, cache))
  | .registered key flight =>
    some { w.turn who (.computing key flight (w.cache.generationOf key)) with holder := none }
  | .computed key flight started lines =>
    some (w.turn who (.storing key flight started lines w.now))
  | .storing key flight started lines now =>
    let (storing, cache) := w.cache.store key lines started now
    some (w.turnWith who (storing.phase key flight lines, cache))
  | .stored key flight lines => w.withdraw who key flight (.ok lines)
  | .failed key flight cause => w.withdraw who key flight (.error cause)
  | .withdrawn _ flight outcome =>
    some { w.turn who (.answered (DiffCache.leaderShare outcome)) with
      outcomes := w.outcomes.put flight outcome }
  | .waiting flight =>
    (w.outcomes.get? flight).map fun outcome =>
      w.turn who (.answered (DiffCache.sharedBy outcome))
  | .idle | .got _ | .computing .. | .answered _ => none

def records (w : Callers) (who : Caller) : List LogRecord :=
  match w.phase who with
  | .missed key =>
    if w.holder.isNone && w.cache.inFlight.contains key then [DiffCache.joiningRecord key] else []
  | .registered key _ => [DiffCache.computingRecord key]
  | .storing key _ started lines now =>
    DiffCache.storingRecords key w.cache.limits (w.cache.store key lines started now).1
  | .withdrawn key _ (.error cause) => [DiffCache.failureRecord key cause]
  | _ => []

def isFree (w : Callers) (who : Caller) : Bool :=
  match w.phase who with
  | .idle | .got _ | .answered _ => true
  | _ => false

def finish (w : Callers) (who : Caller) (outcome : Except Fault (List DiffLine)) : Option Callers :=
  match w.phase who, outcome with
  | .computing key flight started, .ok lines => some (w.turn who (.computed key flight started lines))
  | .computing key flight _, .error cause => some (w.turn who (.failed key flight cause))
  | _, _ => none

/-- What a happening leads to; none if it cannot happen. The clock never goes back. -/
def after (w : Callers) : Happening → Option Callers
  | .tick time => if w.now.le time then some { w with now := time } else none
  | .get who key => if w.isFree who then some (w.turn who (.getting key)) else none
  | .ask who key => if w.isFree who then some (w.turn who (.asking key)) else none
  | .step who => w.step who
  | .result who outcome => w.finish who outcome
  | .contains _ => some w
  | .invalidate path => some { w with cache := (w.cache.invalidate path).2 }
  | .invalidateAll => some { w with cache := w.cache.invalidateAll.2 }

def run (w : Callers) : List Happening → Option Callers
  | [] => some w
  | h :: rest => (w.after h).bind fun next => next.run rest

end Callers

end ReviewDiff
