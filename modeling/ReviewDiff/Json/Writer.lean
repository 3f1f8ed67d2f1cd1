import ReviewDiff.Json.Value
import ReviewDiff.Decimal.Numeral
import ReviewDiff.Text.Quoted

/-!
# Writing JSON

A style fixes the indentation of members and items, and whether characters outside ASCII are written
as escapes (a pair of them for a code above U+FFFF) or as they are. A value with an integer of more
digits than a numeral may have is not to be written.
-/

set_option autoImplicit false

namespace ReviewDiff.Json

structure Style where
  indent : Option String
  asciiOnly : Bool
  deriving DecidableEq, Repr

def spaces (n : Nat) : String := String.ofList (List.replicate n ' ')

/-- The indentation that a value asks for: none, a number of spaces or a text. A value of another
kind is refused by its name. -/
def indentOf : Json → Except String (Option String)
  | .null => .ok none
  | .str unit => .ok (some unit)
  | .int n => .ok (some (spaces n.toNat))
  | .bool b => .ok (some (spaces (if b then 1 else 0)))
  | .float _ => .error "can't multiply sequence by non-int of type 'float'"
  | .arr _ => .error "can't multiply sequence by non-int of type 'list'"
  | .obj _ => .error "can't multiply sequence by non-int of type 'dict'"

def unitEscape (n : Nat) : List Char := '\\' :: 'u' :: Text.hexDigits 4 n

def unitsEscape (c : Char) : List Char :=
  let n := c.toNat
  if n ≤ 0xFFFF then unitEscape n
  else unitEscape (0xD800 + (n - 0x10000) / 0x400) ++ unitEscape (0xDC00 + (n - 0x10000) % 0x400)

def writeChar (asciiOnly : Bool) (c : Char) : List Char :=
  if c = '"' || c = '\\' then ['\\', c]
  else if c = '\n' then ['\\', 'n']
  else if c = '\r' then ['\\', 'r']
  else if c = '\t' then ['\\', 't']
  else if c.toNat = 8 then ['\\', 'b']
  else if c.toNat = 12 then ['\\', 'f']
  else if c.toNat < 32 || asciiOnly && 126 < c.toNat then unitsEscape c
  else [c]

def writeString (asciiOnly : Bool) (s : String) : List Char :=
  '"' :: s.toList.flatMap (writeChar asciiOnly) ++ ['"']

/-- Numbers are written like in messages, but for the name of infinity. -/
def numberLayout : Binary64.Layout := ⟨-4, 16, true, "Infinity", "NaN"⟩

def Style.lineBreak (style : Style) (depth : Nat) : List Char :=
  match style.indent with
  | none => []
  | some unit => '\n' :: (List.replicate depth unit.toList).flatten

def Style.separator (style : Style) : List Char :=
  if style.indent.isNone then [',', ' '] else [',']

mutual

def writeAt (style : Style) (depth : Nat) : Json → List Char
  | .null => "null".toList
  | .bool b => (if b then "true" else "false").toList
  | .int n => (toString n).toList
  | .float x => (x.text numberLayout).toList
  | .str s => writeString style.asciiOnly s
  | .arr [] => "[]".toList
  | .arr (first :: rest) =>
    '[' :: style.lineBreak (depth + 1) ++ writeAt style (depth + 1) first
      ++ writeItems style (depth + 1) rest ++ style.lineBreak depth ++ [']']
  | .obj [] => ['{', '}']
  | .obj ((name, first) :: rest) =>
    '{' :: style.lineBreak (depth + 1) ++ writeString style.asciiOnly name ++ ':' :: ' '
      :: writeAt style (depth + 1) first
      ++ writeMembers style (depth + 1) rest ++ style.lineBreak depth ++ ['}']

def writeItems (style : Style) (depth : Nat) : List Json → List Char
  | [] => []
  | item :: rest =>
    style.separator ++ style.lineBreak depth ++ writeAt style depth item
      ++ writeItems style depth rest

def writeMembers (style : Style) (depth : Nat) : List (String × Json) → List Char
  | [] => []
  | (name, item) :: rest =>
    style.separator ++ style.lineBreak depth ++ writeString style.asciiOnly name ++ ':' :: ' '
      :: writeAt style depth item ++ writeMembers style depth rest

end

mutual

/-- Whether some integer in a value has more digits than a numeral may have. -/
def hasLong : Json → Bool
  | .int n => Numeral.isLong n
  | .arr items => hasLongItem items
  | .obj members => hasLongMember members
  | _ => false

def hasLongItem : List Json → Bool
  | [] => false
  | item :: rest => hasLong item || hasLongItem rest

def hasLongMember : List (String × Json) → Bool
  | [] => false
  | (_, item) :: rest => hasLong item || hasLongMember rest

end

def write (style : Style) (j : Json) : String := String.ofList (writeAt style 0 j)

end ReviewDiff.Json
