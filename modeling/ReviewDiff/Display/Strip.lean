import ReviewDiff.Decimal.Numeral
import ReviewDiff.Display.Columns

/-!
# Strips

A strip is a text with parts that have a style each. A strip can be cut into several; a part goes
with the characters that it holds, and a part that holds none is lost. On a screen the pieces of a
strip between the ends of its parts are set one after the other, each for itself, up to the edge.
-/

set_option autoImplicit false

namespace ReviewDiff

/-- A part of a text from one place up to another, and what is wrong with its style. -/
structure Part where
  start : Nat
  stop : Nat
  fault : Option Numeral.Fault
  deriving DecidableEq, Repr

namespace Part

def sound (place : Nat × Nat) : Part := ⟨place.1, place.2, none⟩

def shift (count : Nat) (p : Part) : Part := { p with start := p.start + count, stop := p.stop + count }

def within? (first last : Nat) (p : Part) : Option Part :=
  let start := p.start - first
  let stop := min (p.stop - first) (last - first)
  if start < stop then some { p with start := start, stop := stop } else none

def before? (last : Nat) (p : Part) : Option Part :=
  if p.start < last then some { p with stop := min p.stop last } else none

end Part

structure Strip where
  chars : List Char
  parts : List Part

namespace Strip

def piecesFrom (parts : List Part) : (place : Nat) → List (List Char) → List Strip
  | _, [] => []
  | place, piece :: rest =>
    let last := place + piece.length
    ⟨piece, parts.filterMap (Part.within? place last)⟩ :: piecesFrom parts last rest

/-- A strip cut into pieces; one that stays whole keeps all its parts. -/
def cut (s : Strip) (pieces : List (List Char)) : List Strip :=
  if pieces.length ≤ 1 then [s] else piecesFrom s.parts 0 pieces

def put (s : Strip) (chars : List Char) : Strip :=
  if chars.length < s.chars.length then
    ⟨chars, s.parts.filterMap (Part.before? chars.length)⟩
  else { s with chars := chars }

def extend (s : Strip) (count : Nat) : Strip :=
  let last := s.chars.length
  ⟨s.chars ++ List.replicate count ' ',
    s.parts.map fun p => if last ≤ p.stop then { p with stop := p.stop + count } else p⟩

def append (s t : Strip) : Strip :=
  ⟨s.chars ++ t.chars, s.parts ++ t.parts.map (Part.shift s.chars.length)⟩

def join (strips : List Strip) : Strip := strips.foldl append ⟨[], []⟩

def ends (s : Strip) : List Nat :=
  let places := s.parts.flatMap fun p => [p.start, p.stop]
  (places.mergeSort fun a b => a ≤ b).eraseDups

def segmentsFrom (place : Nat) (cs : List Char) : List Nat → List (List Char)
  | [] => [cs]
  | stop :: rest =>
    if stop ≤ place then segmentsFrom place cs rest
    else cs.take (stop - place) :: segmentsFrom stop (cs.drop (stop - place)) rest

def segments (s : Strip) : List (List Char) := (segmentsFrom 0 s.chars s.ends).filter (!·.isEmpty)

end Strip

end ReviewDiff
