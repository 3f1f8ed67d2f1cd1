import ReviewDiff.Text.Blank
import ReviewDiff.Text.Digits
import ReviewDiff.Text.Quoted

/-!
# Numerals

An integer in decimal: digits of any script, a sign in front of them, single underscores among them
and blanks around them. A numeral may have only so many digits.
-/

set_option autoImplicit false

namespace ReviewDiff.Numeral

def maxDigits : Nat := 4300

inductive Fault where
  | notNumeral (text : String)
  | tooLong (digits : Nat)
  deriving DecidableEq, Repr

def tooLongText (digits : Nat) : String :=
  s!"Exceeds the limit ({maxDigits} digits) for integer string conversion: value has {digits} digits; use sys.set_int_max_str_digits() to increase the limit"

def Fault.message : Fault → String
  | .notNumeral text => s!"invalid literal for int() with base 10: {Text.quote text}"
  | .tooLong digits => tooLongText digits

def isLong (n : Int) : Bool := maxDigits < (Nat.toDigits 10 n.natAbs).length

def longText : String :=
  s!"Exceeds the limit ({maxDigits} digits) for integer string conversion; use sys.set_int_max_str_digits() to increase the limit"

/-- The number that digits spell. -/
def value (cs : List Char) : Nat := cs.foldl (fun n c => n * 10 + (Text.digit? c).getD 0) 0

def isAscii (c : Char) : Bool := c.toNat < 128

def isSpace (c : Char) : Bool := c = ' ' || '\t' ≤ c && c ≤ '\r'

def trimSpaces (cs : List Char) : List Char :=
  ((cs.dropWhile isSpace).reverse.dropWhile isSpace).reverse

/-- A text with plain blanks in place of those beyond the common characters. -/
def plainBlanks (cs : List Char) : List Char :=
  cs.map fun c => if !isAscii c && Text.isBlank c then ' ' else c

def isNumeral : List Char → Bool
  | [] => false
  | [c] => Text.isDigit c
  | c :: '_' :: rest => Text.isDigit c && isNumeral rest
  | c :: rest => Text.isDigit c && isNumeral rest

def splitSign : List Char → Bool × List Char
  | '-' :: rest => (true, rest)
  | '+' :: rest => (false, rest)
  | cs => (false, cs)

def read (text : String) : Except Fault Int :=
  let (minus, rest) := splitSign (trimSpaces (plainBlanks text.toList))
  if !isNumeral rest then .error (.notNumeral text)
  else
    let digits := rest.filter (· ≠ '_')
    if maxDigits < digits.length then .error (.tooLong digits.length)
    else
      let size : Int := value digits
      .ok (if minus then -size else size)

end ReviewDiff.Numeral
