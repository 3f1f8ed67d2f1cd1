/-!
# Patterns

A pattern describes texts. Where several readings fit, the one that comes first in the order of the
choices counts: the first alternative before the second, and an eager repetition tries once more
before it ends. What follows a choice may make it fail; then the next one is tried.
-/

set_option autoImplicit false

namespace ReviewDiff.Text

inductive Pattern where
  | nothing
  | one (fits : Char → Bool)
  | edge (fits : Option Char → Option Char → Bool)
  | both (first second : Pattern)
  | either (first second : Pattern)
  | times (least : Nat) (most : Option Nat) (eager : Bool) (body : Pattern)
  | part (body : Pattern)

namespace Pattern

/-- A place in a text: the character in front of it, how many there are, what follows, and the
places of the parts that were read, the latest first. -/
structure Spot where
  before : Option Char
  place : Nat
  rest : List Char
  parts : List (Nat × Nat)

def repeated (step : Spot → (Spot → Option Spot) → Option Spot) (eager : Bool) :
    (most least : Nat) → Spot → (Spot → Option Spot) → Option Spot
  | 0, least, s, finish => if least = 0 then finish s else none
  | most + 1, least, s, finish =>
    let again : Unit → Option Spot := fun () =>
      step s fun t => repeated step eager most (least - 1) t finish
    if least ≠ 0 then again ()
    else if eager then (again ()).orElse fun () => finish s
    else (finish s).orElse again

def read : Pattern → Spot → (Spot → Option Spot) → Option Spot
  | nothing, s, finish => finish s
  | one fits, s, finish =>
    match s.rest with
    | c :: rest => if fits c then finish ⟨some c, s.place + 1, rest, s.parts⟩ else none
    | [] => none
  | edge fits, s, finish => if fits s.before s.rest.head? then finish s else none
  | both first second, s, finish => read first s fun t => read second t finish
  | either first second, s, finish => (read first s finish).orElse fun () => read second s finish
  | times least most eager body, s, finish =>
    repeated (read body) eager (most.getD s.rest.length) least s finish
  | part body, s, finish =>
    read body s fun t => finish { t with parts := (s.place, t.place) :: t.parts }

def all : List Pattern → Pattern
  | [] => nothing
  | [last] => last
  | first :: rest => both first (all rest)

def any : List Pattern → Pattern
  | [] => nothing
  | [last] => last
  | first :: rest => either first (any rest)

def char (c : Char) : Pattern := one (· = c)

def oneOf (s : String) : Pattern := one s.toList.contains

def text (s : String) : Pattern := all (s.toList.map char)

def maybe (p : Pattern) : Pattern := times 0 (some 1) true p

def many (p : Pattern) : Pattern := times 0 none true p

def some (p : Pattern) : Pattern := times 1 none true p

def few (p : Pattern) : Pattern := times 0 none false p

/-- The parts of a text that a pattern is found in, from left to right. -/
def partsFrom (p : Pattern) : (fuel : Nat) → Spot → List (Nat × Nat)
  | 0, _ => []
  | fuel + 1, s =>
    match p.read s .some, s.rest with
    | .some t, _ =>
      if s.place < t.place then t.parts ++ partsFrom p fuel { t with parts := [] }
      else []
    | none, c :: rest => partsFrom p fuel ⟨.some c, s.place + 1, rest, []⟩
    | none, [] => []

def partsIn (p : Pattern) (cs : List Char) : List (Nat × Nat) :=
  partsFrom p (cs.length + 1) ⟨none, 0, cs, []⟩

end Pattern

end ReviewDiff.Text
