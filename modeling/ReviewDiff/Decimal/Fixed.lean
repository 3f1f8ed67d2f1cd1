import ReviewDiff.Decimal.Binary64

/-!
# Decimals with one place

A double is written with one digit after the point. Its exact value is rounded, a tie to the even
digit. A share is written as a percentage: the double is multiplied by a hundred first, which rounds
once more.
-/

set_option autoImplicit false

namespace ReviewDiff.Binary64

def tenthsText (tenths : Nat) : String := s!"{tenths / 10}.{tenths % 10}"

/-- The number with one place after the point. -/
def onePlace (x : Binary64) : String :=
  match x.value with
  | .nan => "nan"
  | .infinite negative => if negative then "-inf" else "inf"
  | .finite negative mantissa exponent =>
    let (a, b) := scaleRatio (mantissa * 10) 1 exponent
    (if negative then "-" else "") ++ tenthsText (roundHalfEven a b)

def percent (x : Binary64) : String := (x.timesNat 100).onePlace ++ "%"

end ReviewDiff.Binary64
