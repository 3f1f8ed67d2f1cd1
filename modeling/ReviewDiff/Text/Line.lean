import ReviewDiff.Text.Points

/-!
# Lines of a text

A text is cut at line feeds. A final empty piece is not a line, and a carriage return at the end of
a piece belongs to the terminator. Other line breaks of Unicode are ordinary characters.
-/

set_option autoImplicit false

namespace ReviewDiff

abbrev lineFeed : CodePoint := '\n'

abbrev carriageReturn : CodePoint := '\r'

/-- One line without its terminator; the first line of a file has the index 1. -/
structure LineRecord where
  index : Nat
  text : Points
  deriving DecidableEq, Repr

namespace LineRecord

def dropFinalEmpty : List Points → List Points
  | [] => []
  | [last] => if last.isEmpty then [] else [last]
  | piece :: rest => piece :: dropFinalEmpty rest

def stripReturn (piece : Points) : Points :=
  if piece.getLast? = some carriageReturn then piece.dropLast else piece

def contents (text : Points) : List Points := (dropFinalEmpty (text.splitOn lineFeed)).map stripReturn

def number (index : Nat) : List Points → List LineRecord
  | [] => []
  | line :: rest => ⟨index, line⟩ :: number (index + 1) rest

def texts (lines : List LineRecord) : List Points := lines.map (·.text)

/-- The lines of a text, numbered from 1. -/
def split (text : Points) : List LineRecord := number 1 (contents text)

end LineRecord

end ReviewDiff
