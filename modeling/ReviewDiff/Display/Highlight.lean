import ReviewDiff.Text.Digits
import ReviewDiff.Text.Letters
import ReviewDiff.Text.Pattern

/-!
# Highlighted parts

Parts of a text that are set off from what is around them: tags, attributes, brackets, addresses,
names of calls, constants, numbers, paths, quoted texts and links.
-/

set_option autoImplicit false

namespace ReviewDiff.Highlight

open Text Text.Pattern

def digit : Pattern := one Char.isDigit

def isHexDigit (c : Char) : Bool := c.isDigit || 'a' ≤ c.toLower && c.toLower ≤ 'f'

def hexDigit : Pattern := one isHexDigit

def wordChar : Pattern := one isWordChar

def wordCharOr (others : String) : Pattern :=
  one fun c => isWordChar c || others.toList.contains c

def anyChar : Pattern := one fun _ => true

def inLine : Pattern := one (· ≠ '\n')

def wordEdge : Pattern := edge fun before behind => before.any isWordChar ≠ behind.any isWordChar

def noWordEdge : Pattern := edge fun before behind => before.any isWordChar = behind.any isWordChar

def notBehind (inClass : Char → Bool) : Pattern := edge fun before _ => !before.any inClass

def times (count : Nat) (p : Pattern) : Pattern := .times count (.some count) true p

def upTo (least most : Nat) (p : Pattern) : Pattern := .times least (.some most) true p

def tag : Pattern :=
  all [part (char '<'), part (many (wordCharOr "-.:|")), part (many anyChar), part (char '>')]

def assignment : Pattern :=
  all [part (upTo 1 50 wordChar), char '=',
    maybe (part (all [maybe (char '"'), some wordChar, maybe (char '"')]))]

def bracket : Pattern := part (oneOf "[]\x7b\x7d()")

def dotted : Pattern :=
  let number := upTo 1 3 digit
  part (all [number, char '.', number, char '.', number, char '.', number])

/-- Groups of hexadecimal digits with colons between them. -/
def coloned : Pattern :=
  let group := upTo 1 4 hexDigit
  part (all [upTo 1 7 (all [group, char ':', maybe (char ':')]), group])

/-- Groups of hexadecimal digits with a mark between them. -/
def groups (count : Nat) (mark : Char) (group : Pattern) : Pattern :=
  all [times (count - 1) (all [group, char mark]), group]

/-- The address of a device, as pairs of digits or as larger groups. -/
def device (pairs fours : Nat) : Pattern :=
  part (any [groups pairs '-' (upTo 1 2 hexDigit), groups pairs ':' (upTo 1 2 hexDigit),
    groups fours '.' (times 4 hexDigit)])

def identifier : Pattern :=
  part (all [times 8 hexDigit, char '-', times 4 hexDigit, char '-', times 4 hexDigit, char '-',
    times 4 hexDigit, char '-', times 12 hexDigit])

def call : Pattern := all [part (few (wordCharOr ".")), char '(']

def constant : Pattern :=
  any (["True", "False", "None"].map fun word => all [wordEdge, part (text word), wordEdge])

def ellipsis : Pattern := part (text "...")

/-- Digits with a point among them and an exponent behind them. -/
def decimal (exponent : Pattern) : Pattern :=
  all [some digit, maybe (char '.'), many digit, maybe exponent]

def exponent (digits : Pattern) : Pattern := all [char 'e', maybe (oneOf "-+"), digits]

def fewDigits : Pattern := .times 1 none false (one isDigit)

def complexNumber : Pattern :=
  part (all [notBehind isWordChar, maybe (char '-'), decimal (exponent fewDigits),
    maybe (all [oneOf "-+", decimal (exponent (some (one isDigit)))]), char 'j'])

def number : Pattern :=
  part (any [all [notBehind isWordChar, maybe (char '-'), decimal (exponent fewDigits), wordEdge],
    all [text "0x", many hexDigit]])

def path : Pattern :=
  let pathChar := wordCharOr "-._+"
  all [part (all [noWordEdge, many (all [char '/', some pathChar]), char '/']),
    maybe (part (many pathChar))]

/-- A text between two of a mark, with no backslash in front of the latter. -/
def quotedBy (mark : String) : Pattern :=
  all [maybe (char 'b'), text mark, few inLine, notBehind (· = '\\'), text mark]

def quoted : Pattern :=
  all [notBehind fun c => c = '\\' || isWordChar c,
    part (any (["'''", "'", "\"\"\"", "\""].map quotedBy))]

def isLinkChar (c : Char) : Bool :=
  c.isAlphanum || "-$_+!\x60(),.?/;:&=%#~".toList.contains c

def link : Pattern :=
  part (all [any (["file", "https", "http", "ws", "wss"].map text), text "://",
    many (one isLinkChar)])

/-- What is looked for in a text, one after the other. `calls` says that names in front of a bracket
are looked for. -/
def patterns (calls : Bool) : List Pattern :=
  [tag, assignment, bracket,
    any ([dotted, coloned, device 8 4, device 6 3, identifier] ++ (if calls then [call] else [])
      ++ [constant, ellipsis, complexNumber, number, path, quoted, link])]

def parts (cs : List Char) : List (Nat × Nat) :=
  (patterns (cs.contains '(')).flatMap fun p => p.partsIn cs

end ReviewDiff.Highlight
