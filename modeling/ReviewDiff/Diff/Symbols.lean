import ReviewDiff.Data.Assoc
import ReviewDiff.Text.Line

/-!
# Symbols for lines

Lines are compared by numbers that stand for their texts. A text gets its number where it comes up
first, and one table serves both sides of a comparison, so that lines with one text have one number
wherever they stand.
-/

set_option autoImplicit false

namespace ReviewDiff

/-- A line to compare: a text alone, or a line of a file, which may have any number there. -/
inductive Comparand where
  | plain (text : Points)
  | numbered (line : LineRecord)
  deriving DecidableEq, Repr

namespace Comparand

def text : Comparand → Points
  | .plain text => text
  | .numbered line => line.text

def texts (lines : List Comparand) : List Points := lines.map text

end Comparand

abbrev Symbols (α : Type) := Assoc α Nat

namespace Symbols

variable {α : Type} [DecidableEq α]

def intern (known : Symbols α) (text : α) : Nat × Symbols α :=
  match known.get? text with
  | some n => (n, known)
  | none => (known.length, known.put text known.length)

def internAll : Symbols α → List α → List Nat × Symbols α
  | known, [] => ([], known)
  | known, text :: rest =>
    let (n, known) := known.intern text
    let (numbers, known) := internAll known rest
    (n :: numbers, known)

end Symbols

end ReviewDiff
