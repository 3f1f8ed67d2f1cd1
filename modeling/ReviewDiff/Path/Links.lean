import ReviewDiff.Data.Assoc
import ReviewDiff.Path.Lexical
import ReviewDiff.Text.Quoted

/-!
# Places and symbolic links

Where the file system matters it is a table of symbolic links, which a path can be led through. The
file system is asked about every place on the way. It cannot be asked about a path that has no bytes
or that holds a zero byte, and such a question ends the search.
-/

set_option autoImplicit false

namespace ReviewDiff.Path

open PathChar

inductive Unreadable where
  | unencodable (e : Unencodable)
  | zeroByte
  deriving DecidableEq, Repr

def Unreadable.message : Unreadable → String
  | .unencodable e => e.message
  | .zeroByte => "embedded null byte"

/-- What keeps a path from the file system, whose names are bytes other than zero. -/
def unreadable? (path : Points) : Option Unreadable :=
  match path.refusal? fun point => point.isSurrogate && !point.isByte with
  | some e => some (.unencodable e)
  | none => if path.contains (Char.ofNat 0) then some .zeroByte else none

/-- The targets of symbolic links, by the components of their places. -/
abbrev Links := Assoc (List (Component CodePoint)) Points

def noLinks : Links := []

def placeText (place : List (Component CodePoint)) : Points := slash :: join place.reverse

inductive Halt where
  /-- A link leads back to itself; the path is that of the link and all that was still to follow. -/
  | loop (path : Points)
  | unreadable (e : Unreadable)
  deriving DecidableEq, Repr

/-- Goes on from a place, component by component; a link is left to `jump`, which is given the place
of the link and its target. -/
def walk (links : Links)
    (jump : List (Component CodePoint) → Points → Except Halt (List (Component CodePoint))) :
    (place : List (Component CodePoint)) → List (Component CodePoint) →
      Except Halt (List (Component CodePoint))
  | place, [] => .ok place
  | place, c :: rest =>
    if isEmptyStep c then walk links jump place rest
    else if isParent c then walk links jump place.tail rest
    else
      match unreadable? (placeText (c :: place)), Assoc.get? links (c :: place).reverse with
      | some e, _ => .error (.unreadable e)
      | none, none => walk links jump (c :: place) rest
      | none, some target =>
        match jump (c :: place) target with
        | .ok reached => walk links jump reached rest
        | .error (.loop path) => .error (.loop (followedBy path (join rest)))
        | .error (.unreadable e) => .error (.unreadable e)

def follow (links : Links) : (fuel : Nat) → (opened : List (List (Component CodePoint))) →
    (place : List (Component CodePoint)) → List (Component CodePoint) →
      Except Halt (List (Component CodePoint))
  | 0, _ => walk links fun link _ => .error (.loop (placeText link))
  | fuel + 1, opened => walk links fun link target =>
    if link ∈ opened then .error (.loop (placeText link))
    else
      follow links fuel (link :: opened) (if isAbsolute target then [] else link.tail)
        (components target)

def real (links : Links) (path : Points) : Except Unreadable Points :=
  match follow links links.length [] [] (components path) with
  | .ok place => .ok (placeText place)
  | .error (.loop stuck) => .ok (normalize stuck)
  | .error (.unreadable e) => .error e

def reals (links : Links) (first second : Points) : Except Unreadable (Points × Points) := do
  return (← real links first, ← real links second)

end ReviewDiff.Path
