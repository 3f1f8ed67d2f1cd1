import ReviewDiff.Display.Literal.Token
import ReviewDiff.Display.CharacterName

/-!
# Escapes in quoted texts

What a quoted text says is not kept, only whether its escapes stand for characters. Places in a
quoted text are counted after every character beyond ASCII was written as an escape.
-/

set_option autoImplicit false

namespace ReviewDiff.Literal

def codeEscape (c : Char) : List Char :=
  let digits := Nat.toDigits 16 c.toNat
  '\\' :: 'U' :: (List.replicate (8 - digits.length) '0' ++ digits)

def backslashEscape : List Char := "\\u005c".toList

def inAscii : List Char → List Char
  | '\\' :: c :: rest =>
    if Numeral.isAscii c then '\\' :: c :: inAscii rest
    else backslashEscape ++ codeEscape c ++ inAscii rest
  | ['\\'] => backslashEscape
  | c :: rest => (if Numeral.isAscii c then [c] else codeEscape c) ++ inAscii rest
  | [] => []

def isHex (c : Char) : Bool := c.isDigit || 'a' ≤ c.toLower && c.toLower ≤ 'f'

/-- Escapes by code: the letter, the number of digits and what is said where digits lack. -/
def codeEscapes : List (Char × Nat × String) :=
  [('x', 2, "truncated \\xXX escape"), ('u', 4, "truncated \\uXXXX escape"),
    ('U', 8, "truncated \\UXXXXXXXX escape")]

def nameFlaw? : List Char → Option (Nat × String)
  | '\x7b' :: rest =>
    let name := rest.takeWhile (· ≠ '\x7d')
    if name.isEmpty || name.length = rest.length then
      some (3 + name.length, "malformed \\N character escape")
    else if Text.isCharacterName name then none
    else some (4 + name.length, "unknown Unicode character name")
  | _ => some (2, "malformed \\N character escape")

/-- The length and the flaw of an escape that stands for no character, from its letter and what
stands behind it. -/
def escapeFlaw? (letter : Char) (rest : List Char) : Option (Nat × String) :=
  if letter = 'N' then nameFlaw? rest
  else match codeEscapes.find? fun e => e.1 = letter with
    | none => none
    | some (_, count, reason) =>
      let digits := (rest.take count).takeWhile isHex
      if digits.length < count then some (2 + digits.length, reason)
      else if 0x10FFFF < Text.numberIn 16 digits then
        some (2 + count, "illegal Unicode character")
      else none

def checkEscapes (place : Nat) : List Char → Except Fault Unit
  | '\\' :: c :: rest =>
    match escapeFlaw? c rest with
    | some (length, reason) => .error (.escape place (place + length - 1) reason)
    | none => checkEscapes (place + 2) rest
  | _ :: rest => checkEscapes (place + 1) rest
  | [] => .ok ()

def checkByteEscapes (place : Nat) : List Char → Except Fault Unit
  | '\\' :: 'x' :: rest =>
    if ((rest.take 2).takeWhile isHex).length < 2 then .error (.bytesEscape place)
    else checkByteEscapes (place + 2) rest
  | '\\' :: _ :: rest => checkByteEscapes (place + 2) rest
  | _ :: rest => checkByteEscapes (place + 1) rest
  | [] => .ok ()

def checkPlain (raw : Bool) (cs : List Char) : Except Fault Unit :=
  if raw then .ok () else checkEscapes 0 (inAscii cs)

def checkQuoted (marks : Marks) (content : List Char) : Except Fault Unit :=
  if marks.filled then .ok ()
  else if !marks.bytes then checkPlain marks.raw content
  else if !content.all Numeral.isAscii then .error .wideBytes
  else if marks.raw then .ok ()
  else checkByteEscapes 0 content

end ReviewDiff.Literal
