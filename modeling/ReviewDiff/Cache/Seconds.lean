import ReviewDiff.Decimal.Shortest

/-!
# Seconds

Times and spans of time. A number of seconds is an integer of any size or a double. Integers are
added and subtracted exactly; as soon as a double takes part the result is a double, rounded once.
Comparisons are exact whatever the two numbers are; what is no number compares with nothing.
-/

set_option autoImplicit false

namespace ReviewDiff

/-- A number of seconds, whole or as a double. -/
inductive Seconds where
  | whole (n : Int)
  | double (x : Binary64)
  deriving DecidableEq, Repr

namespace Seconds

def text : Seconds → String
  | .whole n => toString n
  | .double x => x.plain

def toDouble : Seconds → Binary64
  | .whole n => .ofInt n
  | .double x => x

def combine (exact : Int → Int → Int) (rounded : Binary64 → Binary64 → Binary64) :
    Seconds → Seconds → Seconds
  | .whole m, .whole n => .whole (exact m n)
  | a, b => .double (rounded a.toDouble b.toDouble)

def add : Seconds → Seconds → Seconds := combine (· + ·) Binary64.add

def sub : Seconds → Seconds → Seconds := combine (· - ·) Binary64.sub

def isTooLarge : Seconds → Bool
  | .whole n => !(Binary64.ofInt n).isFinite
  | .double _ => false

def later? (time span : Seconds) : Option Seconds :=
  match time, span with
  | .whole m, .whole n => some (.whole (m + n))
  | _, _ => if time.isTooLarge || span.isTooLarge then none else some (time.add span)

def infinite? : Seconds → Option Bool
  | .whole _ => none
  | .double x =>
    match x.value with
    | .infinite negative => some negative
    | _ => none

def value? : Seconds → Option Rat
  | .whole n => some n
  | .double x => x.toRat?

/-- Whether one number is at most another one. -/
def le (a b : Seconds) : Bool :=
  match a.value?, b.value? with
  | some x, some y => x ≤ y
  | some _, none => b.infinite? = some false
  | none, some _ => a.infinite? = some true
  | none, none =>
    match a.infinite?, b.infinite? with
    | some low, some low' => low || !low'
    | _, _ => false

end Seconds

end ReviewDiff
