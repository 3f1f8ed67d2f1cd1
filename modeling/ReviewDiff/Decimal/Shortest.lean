import ReviewDiff.Decimal.Binary64

/-!
# The shortest decimal of a double

The fewest digits that read back as the same double and, of these, the ones nearest to its value.
For each digit count the two neighbours of the value on that decimal grid are tried; the first grid
with a neighbour inside the rounding interval decides.
-/

set_option autoImplicit false

namespace ReviewDiff.Binary64

structure Decimal where
  digits : Nat
  point : Int
  deriving DecidableEq, Repr

def digitCount (n : Nat) : Nat := (Nat.toDigits 10 n).length

def leadingZeros (num den : Nat) : (fuel : Nat) → (start : Nat) → Nat
  | 0, start => start
  | fuel + 1, start =>
    if den ≤ num * Nat.pow 10 start then start else leadingZeros num den fuel (start + 1)

def leadingPower (num den : Nat) : Int :=
  if den ≤ num then (digitCount (num / den) : Int) - 1
  else -(leadingZeros num den 400 1 : Int)

def inUnits (num den : Nat) (power : Int) : Nat × Nat :=
  if 0 ≤ power then (num, den * Nat.pow 10 power.toNat) else (num * Nat.pow 10 (-power).toNat, den)

structure Interval where
  low : Nat
  high : Nat
  den : Nat
  closed : Bool

def Interval.holds (i : Interval) (n : Nat) (power : Int) : Bool :=
  let (lowNum, lowDen) := inUnits i.low i.den power
  let (highNum, highDen) := inUnits i.high i.den power
  if i.closed then lowNum ≤ n * lowDen && n * highDen ≤ highNum
  else lowNum < n * lowDen && n * highDen < highNum

/-- A neighbour of `num / den` on the grid of `10 ^ power` that lies in the interval: the nearer of
the two, the even one when both are as near. -/
def neighbour? (num den : Nat) (i : Interval) (power : Int) : Option Nat :=
  let (a, b) := inUnits num den power
  let below := a / b
  let nearest := roundHalfEven a b
  let other := if nearest = below then below + 1 else below
  if i.holds nearest power then some nearest
  else if i.holds other power then some other
  else none

def firstGrid (num den : Nat) (i : Interval) (lead : Int) : (fuel : Nat) → (count : Nat) → Decimal
  | 0, count => ⟨(inUnits num den (lead + 1 - count)).1, lead + 1⟩
  | fuel + 1, count =>
    match neighbour? num den i (lead + 1 - count) with
    | some n => ⟨n, (digitCount n : Int) + (lead + 1 - count)⟩
    | none => firstGrid num den i lead fuel (count + 1)

def dropZeros : (fuel : Nat) → Nat → Nat
  | 0, n => n
  | fuel + 1, n => if n % 10 = 0 && n != 0 then dropZeros fuel (n / 10) else n

def shortestOf (mantissa : Nat) (exponent : Int) : Decimal :=
  let (num, den) := scaleRatio (4 * mantissa) 1 (exponent - 2)
  let (unit, _) := scaleRatio 1 1 (exponent - 2)
  let gap := if mantissa = Nat.pow 2 52 && -1074 < exponent then 1 else 2
  let i : Interval := ⟨num - gap * unit, num + 2 * unit, den, mantissa % 2 = 0⟩
  let d := firstGrid num den i (leadingPower num den) 17 1
  ⟨dropZeros 20 d.digits, d.point⟩

/-- How a number is laid out: written positionally when the point stands after more than
`fewest` and at most `most` digits, else with a signed exponent of at least two digits. -/
structure Layout where
  fewest : Int
  most : Int
  keepPoint : Bool
  infinite : String
  notANumber : String

def exponentText (e : Int) : String :=
  let digits := toString e.natAbs
  (if e < 0 then "e-" else "e+") ++ (if digits.length < 2 then "0" ++ digits else digits)

def Decimal.positional (d : Decimal) (keepPoint : Bool) : String :=
  let digits := Nat.toDigits 10 d.digits
  if d.point ≤ 0 then
    "0." ++ String.ofList (List.replicate (-d.point).toNat '0' ++ digits)
  else
    let whole := d.point.toNat
    if digits.length ≤ whole then
      String.ofList (digits ++ List.replicate (whole - digits.length) '0')
        ++ (if keepPoint then ".0" else "")
    else String.ofList (digits.take whole) ++ "." ++ String.ofList (digits.drop whole)

def Decimal.scientific (d : Decimal) : String :=
  let digits := Nat.toDigits 10 d.digits
  let tail := digits.drop 1
  String.ofList (digits.take 1) ++ (if tail.isEmpty then "" else "." ++ String.ofList tail)
    ++ exponentText (d.point - 1)

/-- The shortest text of a double in a layout. -/
def text (layout : Layout) (x : Binary64) : String :=
  match x.value with
  | .nan => layout.notANumber
  | .infinite negative => (if negative then "-" else "") ++ layout.infinite
  | .finite negative mantissa exponent =>
    let sign := if negative then "-" else ""
    if mantissa = 0 then sign ++ (if layout.keepPoint then "0.0" else "0")
    else
      let d := shortestOf mantissa exponent
      sign ++ (if layout.fewest < d.point && d.point ≤ layout.most then
        d.positional layout.keepPoint else d.scientific)

def plainLayout : Layout := ⟨-4, 16, true, "inf", "nan"⟩

def plain (x : Binary64) : String := text plainLayout x

end ReviewDiff.Binary64
