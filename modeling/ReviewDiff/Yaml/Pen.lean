/-!
# The pen of a document

What was written so far, how far the line has come, and whether a word could follow at once. A line
is too long for another word when it is past the width.
-/

set_option autoImplicit false

namespace ReviewDiff.Yaml

structure Pen where
  written : List Char
  column : Nat
  blank : Bool
  opening : Bool

namespace Pen

def start : Pen := ⟨[], 0, true, true⟩

def text (p : Pen) : String := String.ofList p.written.reverse

def width : Nat := 80

def isWide (p : Pen) : Bool := width < p.column

def put (p : Pen) (cs : List Char) : Pen :=
  { p with written := cs.reverse ++ p.written, column := p.column + cs.length }

def breakLine (p : Pen) (lineBreak : Char) : Pen := ⟨lineBreak :: p.written, 0, true, true⟩

/-- Comes to an indentation, on a new line if the line is past it. -/
def toIndent (p : Pen) (indent : Nat) : Pen :=
  let p :=
    if !p.opening || indent < p.column || p.column = indent && !p.blank then p.breakLine '\n' else p
  if p.column < indent then
    { p.put (List.replicate (indent - p.column) ' ') with blank := true }
  else p

def mark (p : Pen) (cs : List Char) (apart : Bool) : Pen :=
  let p := if apart && !p.blank then p.put [' '] else p
  { p.put cs with blank := false, opening := false }

/-- Writes the mark of an item; the line goes on like an indented one. -/
def itemMark (p : Pen) (c : Char) : Pen := { p.mark [c] true with opening := p.opening }

def inWord (p : Pen) : Pen := { p with blank := false, opening := false }

def fold (p : Pen) (indent : Nat) : Pen := (p.toIndent indent).inWord

end Pen

end ReviewDiff.Yaml
