import ReviewDiff.Fault
import ReviewDiff.Log.Record

/-!
# Work

A piece of work acts on a state, writes log records and either answers or comes to a fault. A fault
takes back nothing: the state and the log are as the work left them.
-/

set_option autoImplicit false

namespace ReviewDiff

/-- A state and the log records written so far, the latest first. -/
structure Traced (σ : Type) where
  state : σ
  log : List LogRecord
  deriving Repr

abbrev Work (σ α : Type) : Type := ExceptT Fault (StateM (Traced σ)) α

namespace Work

variable {σ τ α : Type}

/-- The outcome of a piece of work and what it leaves behind. -/
def run (t : Work σ α) (s : Traced σ) : Except Fault α × Traced σ := ExceptT.run t s

def mk (f : Traced σ → Except Fault α × Traced σ) : Work σ α := ExceptT.mk f

def get : Work σ σ := mk fun s => (.ok s.state, s)

def modify (f : σ → σ) : Work σ Unit := mk fun s => (.ok (), { s with state := f s.state })

def change (f : σ → α × σ) : Work σ α :=
  mk fun s => let (answer, next) := f s.state; (.ok answer, { s with state := next })

def log (r : LogRecord) : Work σ Unit := mk fun s => (.ok (), { s with log := r :: s.log })

def fail (e : Fault) : Work σ α := mk fun s => (.error e, s)

def ofExcept (x : Except Fault α) : Work σ α := mk fun s => (x, s)

def attempt (t : Work σ α) : Work σ (Except Fault α) :=
  mk fun s => let (outcome, next) := t.run s; (.ok outcome, next)

def on (part : τ → σ) (restore : σ → τ → τ) (t : Work σ α) : Work τ α :=
  mk fun s =>
    let (outcome, next) := t.run ⟨part s.state, s.log⟩
    (outcome, ⟨restore next.state s.state, next.log⟩)

end Work

end ReviewDiff
