/-!
# Edit scripts

An edit script leads from an old sequence of lines to a new one. Its operations name half-open runs
of positions, counted from zero. A script from elsewhere may name any positions; what makes it a
script between two given sequences is stated apart from the type.
-/

set_option autoImplicit false

namespace ReviewDiff

structure Span where
  start : Int
  stop : Int
  deriving DecidableEq, Repr

namespace Span

def extent (s : Span) : Int := s.stop - s.start

def size (s : Span) : Nat := s.extent.toNat

def ofSize (start size : Nat) : Span := ⟨start, start + size⟩

end Span

inductive Edit where
  | equal (old new : Span)
  | delete (old : Span)
  | insert (new : Span)
  deriving DecidableEq, Repr

abbrev Script := List Edit

inductive Step where
  | keep
  | delete
  | insert
  deriving DecidableEq, Repr

inductive Run where
  | kept (size : Nat)
  | changed (deleted inserted : Nat)
  deriving DecidableEq, Repr

namespace Step

def onto : Step → List Run → List Run
  | .keep, .kept n :: rest => .kept (n + 1) :: rest
  | .keep, rest => .kept 1 :: rest
  | .delete, .changed d i :: rest => .changed (d + 1) i :: rest
  | .delete, rest => .changed 1 0 :: rest
  | .insert, .changed d i :: rest => .changed d (i + 1) :: rest
  | .insert, rest => .changed 0 1 :: rest

/-- The maximal runs of a list of steps. -/
def runs : List Step → List Run
  | [] => []
  | step :: rest => step.onto (runs rest)

end Step

/-- The operations of runs that start at position `i` of the old side and `j` of the new one. In a
changed run all deletions come before all insertions. -/
def Script.ofRuns (i j : Nat) : List Run → Script
  | [] => []
  | .kept n :: rest =>
    .equal (.ofSize i n) (.ofSize j n) :: Script.ofRuns (i + n) (j + n) rest
  | .changed d n :: rest =>
    (if d = 0 then [] else [.delete (.ofSize i d)])
      ++ (if n = 0 then [] else [.insert (.ofSize j n)])
      ++ Script.ofRuns (i + d) (j + n) rest

def Script.ofSteps (steps : List Step) : Script := Script.ofRuns 0 0 (Step.runs steps)

end ReviewDiff
