import ReviewDiff.Text.Points
import ReviewDiff.Text.Printable

/-!
# Quoted text

The way a value is shown inside a message: between single quotes, or between double quotes when it
holds a single quote and no double one. The backslash, the quote in use, line feed, carriage return
and tab are escaped by a letter, every other unprintable character by its code in hexadecimal.
-/

set_option autoImplicit false

namespace ReviewDiff.Text

def hexDigit (n : Nat) : Char := if n < 10 then Char.ofNat (48 + n) else Char.ofNat (87 + n)

def hexDigits : (width : Nat) → Nat → List Char
  | 0, _ => []
  | width + 1, n => hexDigits width (n / 16) ++ [hexDigit (n % 16)]

/-- The escape of an unprintable character, as short as its code allows. -/
def codeEscape (c : Char) : List Char :=
  let n := c.toNat
  if n ≤ 0xFF then '\\' :: 'x' :: hexDigits 2 n
  else if n ≤ 0xFFFF then '\\' :: 'u' :: hexDigits 4 n
  else '\\' :: 'U' :: hexDigits 8 n

def quoteChar (mark c : Char) : List Char :=
  if c = mark || c = '\\' then ['\\', c]
  else if c = '\n' then ['\\', 'n']
  else if c = '\r' then ['\\', 'r']
  else if c = '\t' then ['\\', 't']
  else if isPrintable c then [c]
  else codeEscape c

def quotePoint (mark : Char) : CodePoint → List Char
  | .char c => quoteChar mark c
  | .surrogate index => '\\' :: 'u' :: hexDigits 4 (CodePoint.surrogate index).toNat

def quoteMark (p : Points) : Char :=
  if p.contains '\'' && !p.contains '"' then '"' else '\''

def quote (p : Points) : String :=
  let mark := quoteMark p
  String.ofList (mark :: p.flatMap (quotePoint mark) ++ [mark])

end ReviewDiff.Text

namespace ReviewDiff.Unencodable

open Text (hexDigits)

def message (e : Unencodable) : String :=
  if e.stop = e.start + 1 then
    "'utf-8' codec can't encode character '\\u" ++ String.ofList (hexDigits 4 e.first.toNat)
      ++ s!"' in position {e.start}: surrogates not allowed"
  else
    s!"'utf-8' codec can't encode characters in position {e.start}-{e.stop - 1}: "
      ++ "surrogates not allowed"

end ReviewDiff.Unencodable
