import ReviewDiff.Diff.Complete

/-!
# Hunks

The changes of a script with a bounded number of unchanged lines around each. Changes whose context
touches or overlaps share a hunk. The header of a hunk gives, for each side, the number of its first
line and how many lines there are; a side without lines is placed behind the line it follows.
-/

set_option autoImplicit false

namespace ReviewDiff

inductive BlockKind where
  | equal
  | delete
  | insert
  deriving DecidableEq, Repr

structure Block where
  kind : BlockKind
  old : Span
  new : Span
  deriving DecidableEq, Repr

namespace Block

def isEqual (b : Block) : Bool := b.kind = .equal

def ofScriptFrom (i j : Int) : Script → List Block
  | [] => []
  | .equal old new :: rest => ⟨.equal, old, new⟩ :: ofScriptFrom old.stop new.stop rest
  | .delete old :: rest => ⟨.delete, old, ⟨j, j⟩⟩ :: ofScriptFrom old.stop j rest
  | .insert new :: rest => ⟨.insert, ⟨i, i⟩, new⟩ :: ofScriptFrom i new.stop rest

def ofScript (script : Script) : List Block := ofScriptFrom 0 0 script

def opening (n : Int) (b : Block) : Block :=
  if b.isEqual then
    { b with
      old := ⟨b.old.start, min b.old.stop (b.old.start + n)⟩
      new := ⟨b.new.start, min b.new.stop (b.new.start + n)⟩ }
  else b

def closing (n : Int) (b : Block) : Block :=
  if b.isEqual then
    { b with
      old := ⟨max b.old.start (b.old.stop - n), b.old.stop⟩
      new := ⟨max b.new.start (b.new.stop - n), b.new.stop⟩ }
  else b

def isLong (n : Int) (b : Block) : Bool := b.isEqual && 2 * n < b.old.extent

def trimFirst (n : Int) : List Block → List Block
  | [] => []
  | b :: rest => b.closing n :: rest

def trimLast (n : Int) : List Block → List Block
  | [] => []
  | [b] => [b.opening n]
  | b :: rest => b :: trimLast n rest

def onto (b : Block) : List (List Block) → List (List Block)
  | [] => [[b]]
  | group :: rest => (b :: group) :: rest

/-- The blocks cut into groups: a long unchanged block ends a group with its first `n` lines and
starts the next with its last `n`. -/
def cut (n : Int) : List Block → List (List Block)
  | [] => [[]]
  | b :: rest =>
    if b.isLong n then [b.opening n] :: (b.closing n).onto (cut n rest)
    else b.onto (cut n rest)

def groups (n : Int) (blocks : List Block) : List (List Block) :=
  if blocks.all isEqual then []
  else (cut n (trimLast n (trimFirst n blocks))).filter fun group => !group.all isEqual

/-- The lines of a block. The old side of an unchanged block says how many there are. -/
def lines (old new : Array Points) (b : Block) : Except PositionFault (List DiffLine) :=
  match b.kind with
  | .equal => contextLines new b.old.start b.new.start b.old.size
  | .delete => removedLines old b.old
  | .insert => addedLines new b.new

end Block

/-- A changed region with its context. -/
structure Hunk where
  oldStart : Int
  oldCount : Int
  newStart : Int
  newCount : Int
  lines : List DiffLine
  deriving DecidableEq, Repr

namespace Hunk

def headerText (h : Hunk) : String :=
  s!"@@ -{h.oldStart},{h.oldCount} +{h.newStart},{h.newCount} @@"

def header (h : Hunk) : DiffLine := .header h.headerText

def sideStart (begin count : Int) : Int := if count = 0 then begin else begin + 1

def ofGroup (old new : Array Points) (group : List Block) : Except PositionFault Hunk := do
  let lines ← group.mapM (Block.lines old new)
  let first := group.head?.getD ⟨.equal, ⟨0, 0⟩, ⟨0, 0⟩⟩
  let last := group.getLast?.getD first
  let oldCount := last.old.stop - first.old.start
  let newCount := last.new.stop - first.new.start
  return ⟨sideStart first.old.start oldCount, oldCount, sideStart first.new.start newCount, newCount,
    lines.flatten⟩

inductive Fault where
  | negativeContext (found : Int)
  | position (fault : PositionFault)
  deriving DecidableEq, Repr

def Fault.message : Fault → String
  | .negativeContext found => s!"context_lines must be non-negative (found: {found})"
  | .position fault => fault.message

/-- The hunks of a script, with up to `context` unchanged lines on either side of each change. -/
def ofScript (old new : List Points) (script : Script) (context : Int) :
    Except Fault (List Hunk) :=
  if context < 0 then .error (.negativeContext context)
  else match (Block.groups context (Block.ofScript script)).mapM
      (ofGroup old.toArray new.toArray) with
    | .error fault => .error (.position fault)
    | .ok hunks => .ok hunks

def output (hunks : List Hunk) : List DiffLine := hunks.flatMap fun h => h.header :: h.lines

def defaultContext : Int := 3

end Hunk

end ReviewDiff
