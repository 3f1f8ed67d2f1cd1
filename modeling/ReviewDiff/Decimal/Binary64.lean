/-!
# Double-precision numbers

A double is kept as its 64-bit word. Its value is exact: a sign, a natural mantissa and a power of
two. Whatever is computed is computed exactly on ratios of natural numbers and rounded once, to the
nearest double, a tie going to the even mantissa.
-/

set_option autoImplicit false

namespace ReviewDiff

def roundHalfEven (num den : Nat) : Nat :=
  let q := num / den
  let twice := 2 * (num % den)
  if twice < den then q
  else if den < twice then q + 1
  else if q % 2 = 0 then q else q + 1

/-- An IEEE 754 double-precision number, as its word. -/
structure Binary64 where
  bits : UInt64
  deriving DecidableEq, Repr, Inhabited

namespace Binary64

/-- What a word stands for: `± mantissa · 2 ^ exponent`, an infinity, or no number. -/
inductive Value where
  | finite (negative : Bool) (mantissa : Nat) (exponent : Int)
  | infinite (negative : Bool)
  | nan
  deriving DecidableEq, Repr

def isNegative (x : Binary64) : Bool := Nat.pow 2 63 ≤ x.bits.toNat

def field (x : Binary64) : Nat := x.bits.toNat / Nat.pow 2 52 % Nat.pow 2 11

def fraction (x : Binary64) : Nat := x.bits.toNat % Nat.pow 2 52

def value (x : Binary64) : Value :=
  if x.field = 2047 then if x.fraction = 0 then .infinite x.isNegative else .nan
  else if x.field = 0 then .finite x.isNegative x.fraction (-1074)
  else .finite x.isNegative (Nat.pow 2 52 + x.fraction) ((x.field : Int) - 1075)

def ofFields (negative : Bool) (field fraction : Nat) : Binary64 :=
  ⟨UInt64.ofNat ((if negative then Nat.pow 2 63 else 0) + field * Nat.pow 2 52 + fraction)⟩

def infinity (negative : Bool) : Binary64 := ofFields negative 2047 0

def nan : Binary64 := ofFields false 2047 (Nat.pow 2 51)

def zero (negative : Bool) : Binary64 := ofFields negative 0 0

def scaleRatio (num den : Nat) (shift : Int) : Nat × Nat :=
  if 0 ≤ shift then (num * Nat.pow 2 shift.toNat, den) else (num, den * Nat.pow 2 (-shift).toNat)

def floorLog2 (num den : Nat) : Int :=
  let guess : Int := (Nat.log2 num : Int) - (Nat.log2 den : Int)
  let (a, b) := scaleRatio num den (-guess)
  if a < b then guess - 1 else guess

/-- The double nearest to `± num / den`. A magnitude past the largest double becomes infinite. -/
def ofRatio (negative : Bool) (num den : Nat) : Binary64 :=
  if num = 0 || den = 0 then zero negative
  else
    let exponent := max (floorLog2 num den - 52) (-1074)
    let (a, b) := scaleRatio num den (-exponent)
    let mantissa := roundHalfEven a b
    let field := (exponent + 1074).toNat
    -- A mantissa of 53 bits carries into the field, also when rounding made it so.
    let word := field * Nat.pow 2 52 + mantissa
    if 2047 * Nat.pow 2 52 ≤ word then infinity negative
    else ofFields negative (word / Nat.pow 2 52) (word % Nat.pow 2 52)

def ofInt (n : Int) : Binary64 := ofRatio (n < 0) n.natAbs 1

/-- The double nearest to `± digits · 10 ^ exponent`; an exponent far out of range is not
multiplied out. -/
def ofDecimal (negative : Bool) (digits : Nat) (exponent : Int) : Binary64 :=
  if digits = 0 then zero negative
  else
    let magnitude : Int := exponent + (Nat.log2 digits : Int) / 3
    if 400 < exponent then infinity negative
    else if magnitude < -400 then zero negative
    else if 0 ≤ exponent then ofRatio negative (digits * Nat.pow 10 exponent.toNat) 1
    else ofRatio negative digits (Nat.pow 10 (-exponent).toNat)

def ofQuotient (a b : Int) : Binary64 := ofRatio ((a < 0) != (b < 0)) a.natAbs b.natAbs

def timesNat (x : Binary64) (n : Nat) : Binary64 :=
  match x.value with
  | .finite negative mantissa exponent =>
    let (a, b) := scaleRatio (mantissa * n) 1 exponent
    ofRatio negative a b
  | _ => x

def ofScaled (mantissa exponent : Int) : Binary64 :=
  let (a, b) := scaleRatio mantissa.natAbs 1 exponent
  ofRatio (mantissa < 0) a b

def lowered (negative : Bool) (mantissa : Nat) (shift : Int) : Int :=
  let size : Int := (mantissa * Nat.pow 2 shift.toNat : Nat)
  if negative then -size else size

def add (x y : Binary64) : Binary64 :=
  match x.value, y.value with
  | .nan, _ | _, .nan => nan
  | .infinite a, .infinite b => if a = b then infinity a else nan
  | .infinite a, .finite .. | .finite .., .infinite a => infinity a
  | .finite a m e, .finite b n f =>
    let low := min e f
    ofScaled (lowered a m (e - low) + lowered b n (f - low)) low

def negate (x : Binary64) : Binary64 :=
  match x.value with
  | .nan => nan
  | .infinite negative => infinity (!negative)
  | .finite negative .. => ofFields (!negative) x.field x.fraction

/-- The difference, rounded once. -/
def sub (x y : Binary64) : Binary64 := x.add y.negate

def isFinite (x : Binary64) : Bool := x.field != 2047

def isNan (x : Binary64) : Bool := x.field = 2047 && x.fraction != 0

def isZero (x : Binary64) : Bool := x.bits.toNat % Nat.pow 2 63 = 0

def isPositive (x : Binary64) : Bool :=
  match x.value with
  | .finite negative mantissa _ => !negative && mantissa != 0
  | .infinite negative => !negative
  | .nan => false

def isInteger (x : Binary64) : Bool :=
  match x.value with
  | .finite _ mantissa exponent => 0 ≤ exponent || mantissa % Nat.pow 2 (-exponent).toNat = 0
  | _ => false

def truncate (x : Binary64) : Int :=
  match x.value with
  | .finite negative mantissa exponent =>
    let (a, b) := scaleRatio mantissa 1 exponent
    let size : Int := (a / b : Nat)
    if negative then -size else size
  | _ => 0

def toRat? (x : Binary64) : Option Rat :=
  match x.value with
  | .finite negative mantissa exponent =>
    let (a, b) := scaleRatio mantissa 1 exponent
    let size : Rat := mkRat (a : Int) b
    some (if negative then -size else size)
  | _ => none

end Binary64

end ReviewDiff
