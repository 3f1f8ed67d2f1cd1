/-!
# Texts of code points

A text that comes from outside need not consist of characters: a surrogate may stand in it without
its partner. Such a text can be compared, cut and shown, but it has no UTF-8 bytes, so whoever wants
them is told where the first surrogate stands.
-/

set_option autoImplicit false

namespace ReviewDiff

inductive CodePoint where
  | char (c : Char)
  | surrogate (index : Fin 2048)
  deriving DecidableEq, Repr

namespace CodePoint

instance : Coe Char CodePoint := ⟨.char⟩

def toNat : CodePoint → Nat
  | .char c => c.toNat
  | .surrogate index => 0xD800 + index

def isSurrogate : CodePoint → Bool
  | .char _ => false
  | .surrogate _ => true

def isByte : CodePoint → Bool
  | .char _ => false
  | .surrogate index => 0x480 ≤ index.val && index.val ≤ 0x4FF

/-- The UTF-8 bytes of a code point, which a surrogate has none of. -/
def bytes : CodePoint → List UInt8
  | .char c => String.utf8EncodeChar c
  | .surrogate _ => []

/-- The character that is shown for a code point. -/
def shown : CodePoint → Char
  | .char c => c
  | .surrogate _ => Char.ofNat 0xFFFD

end CodePoint

abbrev Points := List CodePoint

structure Unencodable where
  start : Nat
  stop : Nat
  first : CodePoint
  deriving DecidableEq, Repr

namespace Points

def ofChars (cs : List Char) : Points := cs.map .char

def ofString (s : String) : Points := ofChars s.toList

instance : Coe String Points := ⟨ofString⟩

def chars? : Points → Option (List Char)
  | [] => some []
  | .char c :: rest => (chars? rest).map (c :: ·)
  | .surrogate _ :: _ => none

def text? (p : Points) : Option String := p.chars?.map String.ofList

/-- A text as it is written where only characters can stand. -/
def shown (p : Points) : String := String.ofList (p.map CodePoint.shown)

def refusal? (refused : CodePoint → Bool) (p : Points) : Option Unencodable :=
  match p.dropWhile fun point => !refused point with
  | [] => none
  | first :: rest =>
    let start := (p.takeWhile fun point => !refused point).length
    some ⟨start, start + 1 + (rest.takeWhile CodePoint.isSurrogate).length, first⟩

def surrogates? (p : Points) : Option Unencodable := p.refusal? CodePoint.isSurrogate

def encode (p : Points) : Except Unencodable (List UInt8) :=
  match p.surrogates? with
  | some e => .error e
  | none => .ok (p.flatMap CodePoint.bytes)

def size (p : Points) : Except Unencodable Nat := p.encode.map List.length

end Points

end ReviewDiff
