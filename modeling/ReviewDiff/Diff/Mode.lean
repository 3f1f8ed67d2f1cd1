import ReviewDiff.Json.Shown

/-!
# Modes of a diff

Only the changes with some context, or the complete file with its changes.
-/

set_option autoImplicit false

namespace ReviewDiff

inductive DiffMode where
  | hunk
  | complete
  deriving DecidableEq, Repr

namespace DiffMode

def name : DiffMode → String
  | .hunk => "hunk"
  | .complete => "complete"

def ofName? (s : String) : Option DiffMode := [hunk, complete].find? fun mode => mode.name = s

/-- A value names no mode. -/
structure Unknown where
  shown : String
  deriving DecidableEq, Repr

def Unknown.message (e : Unknown) : String := e.shown ++ " is not a valid DiffMode"

def ofJson (value : Json) : Except Unknown DiffMode :=
  let named : Option DiffMode :=
    match value with
    | .str s => ofName? s
    | _ => none
  named.elim (.error ⟨value.shown⟩) .ok

end DiffMode

end ReviewDiff
