import ReviewDiff.Diff.Edit
import ReviewDiff.Diff.Line

/-!
# The complete file with its changes

The whole new file, with the removed lines where they stood in the old one. A script that names a
position outside its file has no such output. A negative position counts from the end of the file.
-/

set_option autoImplicit false

namespace ReviewDiff

inductive PositionFault where
  | outOfRange
  deriving DecidableEq, Repr

def PositionFault.message : PositionFault → String
  | .outOfRange => "list index out of range"

def lineAt (lines : Array Points) (position : Int) : Except PositionFault Points :=
  let index := if position < 0 then position + lines.size else position
  if index < 0 then .error .outOfRange
  else match lines[index.toNat]? with
    | some line => .ok line
    | none => .error .outOfRange

def collect (f : Int → Except PositionFault DiffLine) :
    (count : Nat) → (offset : Int) → Except PositionFault (List DiffLine)
  | 0, _ => .ok []
  | count + 1, offset => do
    let line ← f offset
    let rest ← collect f count (offset + 1)
    return line :: rest

/-- Unchanged lines, shown with the text of the new file. -/
def contextLines (new : Array Points) (i j : Int) (count : Nat) :
    Except PositionFault (List DiffLine) :=
  collect (fun offset => do
    let text ← lineAt new (j + offset)
    return .context text (i + offset + 1) (j + offset + 1)) count 0

def removedLines (old : Array Points) (span : Span) : Except PositionFault (List DiffLine) :=
  collect (fun i => do return .removed (← lineAt old i) (i + 1)) span.size span.start

def addedLines (new : Array Points) (span : Span) : Except PositionFault (List DiffLine) :=
  collect (fun j => do return .added (← lineAt new j) (j + 1)) span.size span.start

/-- The lines of one operation. Of two runs of different sizes the shorter one counts. -/
def Edit.lines (old new : Array Points) : Edit → Except PositionFault (List DiffLine)
  | .equal i j => contextLines new i.start j.start (min i.size j.size)
  | .delete i => removedLines old i
  | .insert j => addedLines new j

def completeLines (old new : List Points) (script : Script) :
    Except PositionFault (List DiffLine) :=
  (script.mapM (Edit.lines old.toArray new.toArray)).map List.flatten

end ReviewDiff
