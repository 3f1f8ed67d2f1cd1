import ReviewDiff.Display.Emoji.Early
import ReviewDiff.Display.Emoji.Late
import ReviewDiff.Display.Emoji.Middle
import ReviewDiff.Text.Blank
import ReviewDiff.Text.Hex
import ReviewDiff.Text.Lower
import Std.Data.HashMap

/-!
# Emoji

A name between two colons stands for an emoji. The name may end in a mark that asks for the
character as text or as a picture. A name that nothing is known by stays as it is written.
-/

set_option autoImplicit false

namespace ReviewDiff.Emoji

def codePoint (cs : List Char) : Nat := cs.foldl (fun n c => n * 16 + Bytes.digitValue c) 0

/-- The characters whose code points are spelled in hexadecimal with hyphens between them. -/
def spelled (codes : String) : String :=
  String.ofList ((codes.splitOn "-").map fun code => Char.ofNat (codePoint code.toList))

def entry (text : String) : String × String :=
  match text.splitOn "=" with
  | name :: codes :: _ => (name, spelled codes)
  | _ => (text, "")

def entries (table : String) : List (String × String) :=
  ((table.splitOn "\n").flatMap fun line => line.splitOn " ").map entry

def known : Std.HashMap String String :=
  .ofList (entries earlyNames ++ entries middleNames ++ entries lateNames)

/-- How an emoji is asked to look. -/
inductive Look where
  | plain
  | text
  | picture
  deriving DecidableEq, Repr

def Look.selector : Look → String
  | .plain => ""
  | .text => "\uFE0E"
  | .picture => "\uFE0F"

def lookEnds : List (String × Look) := [("-emoji", .picture), ("-text", .text)]

def nameAndLook (cs : List Char) : List Char × Look :=
  match lookEnds.find? fun e => e.1.toList.isSuffixOf cs with
  | some (mark, look) => (cs.take (cs.length - mark.length), look)
  | none => (cs, .plain)

def shown? (cs : List Char) : Option (List Char) :=
  let (name, look) := nameAndLook cs
  (known.get? (String.ofList (Text.lowerChars name))).map fun emoji =>
    (emoji ++ look.selector).toList

def name? (cs : List Char) : Option (List Char × List Char) :=
  match cs.span fun c => c ≠ ':' && !Text.isBlank c with
  | (name, ':' :: after) => some (name, after)
  | _ => none

def replaceFrom : (fuel : Nat) → List Char → List Char
  | 0, cs => cs
  | _ + 1, [] => []
  | fuel + 1, c :: rest =>
    match if c = ':' then name? rest else none with
    | some (name, after) =>
      ((shown? name).getD (':' :: name ++ [':'])) ++ replaceFrom fuel after
    | none => c :: replaceFrom fuel rest

def replace (cs : List Char) : List Char := replaceFrom cs.length cs

end ReviewDiff.Emoji
