import ReviewDiff.Json.Value
import ReviewDiff.Yaml.Scalar

/-!
# Block documents

Mappings and lists are written in blocks, one member or item a line; a list in a mapping is not
indented. Empty ones are written in brackets. A key that is empty, long or of several lines is
marked as a key of its own. A document that is one plain text is closed by a line of dots.
-/

set_option autoImplicit false

namespace ReviewDiff.Yaml

def stepWidth : Nat := 2

def deeper : Option Nat → Nat
  | none => 0
  | some indent => indent + stepWidth

/-- Numbers are written like in messages, but for the names of what is no finite number. -/
def floatLayout : Binary64.Layout := ⟨-4, 16, true, ".inf", ".nan"⟩

def floatText (x : Binary64) : List Char :=
  let cs := (x.text floatLayout).toList
  if x.isFinite && !cs.contains '.' then
    cs.flatMap fun c => if c = 'e' then ['.', '0', 'e'] else [c]
  else cs

/-- Writes the text of a value; `reads` says that it reads as what it is without quotes. -/
def writeScalar (indent : Option Nat) (isKey reads : Bool) (cs : List Char) (p : Pen) : Pen :=
  let style := styleOf isKey (!reads && readsOtherwise (String.ofList cs)) cs
  writeIn style ((indent.map (· + stepWidth)).getD stepWidth) (!isKey) cs p

def longestKey : Nat := 122

def isSimpleKey (cs : List Char) : Bool :=
  !cs.isEmpty && cs.length ≤ longestKey && !isMultiline cs

/-- Where a value stands: alone or as an item, or behind its key. -/
inductive Place where
  | free
  | behindKey
  deriving DecidableEq, Repr

def beginItem (indent : Nat) (p : Pen) : Pen := (p.toIndent indent).itemMark '-'

def writeKey (indent : Nat) (key : String) (p : Pen) : Pen :=
  let cs := key.toList
  let p := p.toIndent indent
  if isSimpleKey cs then (writeScalar (some indent) true false cs p).mark [':'] false
  else ((writeScalar (some indent) false false cs (p.itemMark '?')).toIndent indent).itemMark ':'

def listIndent (indent : Option Nat) (place : Place) (p : Pen) : Nat :=
  if place = .behindKey && !p.opening then indent.getD 0 else deeper indent

mutual

def write (indent : Option Nat) (place : Place) (p : Pen) : Json → Pen
  | .null => writeScalar indent false true "null".toList p
  | .bool b => writeScalar indent false true (if b then "true" else "false").toList p
  | .int n => writeScalar indent false true (toString n).toList p
  | .float x => writeScalar indent false true (floatText x) p
  | .str s => writeScalar indent false false s.toList p
  | .arr items =>
    if items.isEmpty then p.mark ['[', ']'] true else writeItems (listIndent indent place p) p items
  | .obj members =>
    if members.isEmpty then p.mark ['\x7b', '\x7d'] true else writeMembers (deeper indent) p members

def writeItems (indent : Nat) (p : Pen) : List Json → Pen
  | [] => p
  | item :: rest => writeItems indent (write (some indent) .free (beginItem indent p) item) rest

def writeMembers (indent : Nat) (p : Pen) : List (String × Json) → Pen
  | [] => p
  | (key, value) :: rest =>
    writeMembers indent (write (some indent) .behindKey (writeKey indent key p) value) rest

end

def isPlainDocument : Json → Bool
  | .arr _ | .obj _ => false
  | .str s => styleOf false (readsOtherwise s) s.toList = .plain
  | _ => true

def document (j : Json) : String :=
  let p := (write none .free .start j).toIndent 0
  (if isPlainDocument j then (p.mark "...".toList true).toIndent 0 else p).text

end ReviewDiff.Yaml
