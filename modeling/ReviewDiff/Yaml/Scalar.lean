import ReviewDiff.Data.Assoc
import ReviewDiff.Text.Quoted
import ReviewDiff.Yaml.Pen
import ReviewDiff.Yaml.Plain

/-!
# Texts in a document

A text is written plain where nothing in it could be taken for part of the document, between single
quotes where it has line breaks or needs quotes, and between double quotes where characters have to
be escaped. A line that is past the width is folded at a space.
-/

set_option autoImplicit false

namespace ReviewDiff.Yaml

inductive Style where
  | plain
  | single
  | double
  deriving DecidableEq, Repr

def isBreak (c : Char) : Bool := c = '\n' || [0x85, 0x2028, 0x2029].contains c.toNat

def isSeparator (c : Char) : Bool :=
  isBreak c || c = ' ' || c = '\t' || c = '\r' || c.toNat = 0

def isOrderMark (c : Char) : Bool := c.toNat = 0xFEFF

def isSpecial (c : Char) : Bool :=
  let n := c.toNat
  !(c = '\n' || 0x20 ≤ n && n ≤ 0x7E
    || !isOrderMark c && (n = 0x85 || 0xA0 ≤ n && n ≤ 0xD7FF || 0xE000 ≤ n && n ≤ 0xFFFD
      || 0x10000 ≤ n && n < 0x10FFFF))

def openingMarks : List Char := "#,[]\x7b\x7d&*!|>'\"%@\x60".toList

def separatedBy (rest : List Char) : Bool :=
  match rest with
  | [] => true
  | c :: _ => isSeparator c

def hasInnerMark : (before : Char) → List Char → Bool
  | _, [] => false
  | before, c :: rest =>
    c = ':' && separatedBy rest || c = '#' && isSeparator before || hasInnerMark c rest

def hasMark (cs : List Char) : Bool :=
  ['-', '-', '-'].isPrefixOf cs || ['.', '.', '.'].isPrefixOf cs ||
    match cs with
    | [] => false
    | c :: rest =>
      openingMarks.contains c || (c = '?' || c = ':' || c = '-') && separatedBy rest
        || hasInnerMark c rest

def hasPair (first second : Char → Bool) : List Char → Bool
  | a :: b :: rest => first a && second b || hasPair first second (b :: rest)
  | _ => false

def isSpace (c : Char) : Bool := c = ' '

def isEdge (c : Char) : Bool := isSpace c || isBreak c

def isMultiline (cs : List Char) : Bool := cs.any isBreak

def allowsPlain (cs : List Char) : Bool :=
  !(cs.head?.any isEdge || cs.getLast?.any isEdge || cs.any isBreak || cs.any isSpecial
    || hasMark cs)

def allowsSingle (cs : List Char) : Bool :=
  !(hasPair isBreak isSpace cs || hasPair isSpace isBreak cs || cs.any isSpecial)

/-- The style of a text. A key is never written in several lines and never plain when empty. -/
def styleOf (isKey readsOtherwise : Bool) (cs : List Char) : Style :=
  if !readsOtherwise && !(isKey && (cs.isEmpty || isMultiline cs)) && allowsPlain cs then .plain
  else if allowsSingle cs && !(isKey && isMultiline cs) then .single
  else .double

def plainRest (indent : Nat) (folds : Bool) : (fuel : Nat) → List Char → Pen → Pen
  | 0, _, p => p
  | _ + 1, [], p => p
  | fuel + 1, c :: rest, p =>
    let (run, others) := (c :: rest).span fun d => isSpace d = isSpace c
    let p :=
      if run = [' '] && p.isWide && folds then p.fold indent else p.put run
    plainRest indent folds fuel others p

def writePlain (indent : Nat) (folds : Bool) (cs : List Char) (p : Pen) : Pen :=
  if cs.isEmpty then p
  else
    let p := if p.blank then p else p.put [' ']
    plainRest indent folds (cs.length + 1) cs p.inWord

/-- Writes a run of line breaks: a line feed is doubled, so that it is not taken for a fold. -/
def writeBreaks (indent : Nat) (run : List Char) (p : Pen) : Pen :=
  let p := if run.head? = some '\n' then p.breakLine '\n' else p
  (run.foldl Pen.breakLine p).toIndent indent

def runKind (c : Char) : Nat := if isSpace c then 0 else if isBreak c then 1 else 2

def doubleQuote (cs : List Char) : List Char :=
  cs.flatMap fun c => if c = '\'' then ['\'', '\''] else [c]

/-- Writes a text between single quotes from a place on; `atStart` says that nothing of it was
written. -/
def singleRest (indent : Nat) (folds : Bool) :
    (fuel : Nat) → (atStart : Bool) → List Char → Pen → Pen
  | 0, _, _, p => p
  | _ + 1, _, [], p => p
  | fuel + 1, atStart, c :: rest, p =>
    let (run, others) := (c :: rest).span fun d => runKind d = runKind c
    let p :=
      if isBreak c then writeBreaks indent run p
      else if run = [' '] && p.isWide && folds && !atStart && !others.isEmpty then p.toIndent indent
      else p.put (doubleQuote run)
    singleRest indent folds fuel false others p

def writeSingle (indent : Nat) (folds : Bool) (cs : List Char) (p : Pen) : Pen :=
  (singleRest indent folds (cs.length + 1) true cs (p.mark ['\''] true)).mark ['\''] false

def letterEscapes : List (Nat × Char) :=
  [(0x00, '0'), (0x07, 'a'), (0x08, 'b'), (0x09, 't'), (0x0A, 'n'), (0x0B, 'v'), (0x0C, 'f'),
    (0x0D, 'r'), (0x1B, 'e'), (0x22, '"'), (0x5C, '\\'), (0x85, 'N'), (0xA0, '_'), (0x2028, 'L'),
    (0x2029, 'P')]

def codeDigits (width : Nat) (n : Nat) : List Char := (Text.hexDigits width n).map Char.toUpper

def escape (c : Char) : List Char :=
  let n := c.toNat
  match Assoc.get? letterEscapes n with
  | some letter => ['\\', letter]
  | none =>
    if n ≤ 0xFF then '\\' :: 'x' :: codeDigits 2 n
    else if n ≤ 0xFFFF then '\\' :: 'u' :: codeDigits 4 n
    else '\\' :: 'U' :: codeDigits 8 n

def isEscaped (c : Char) : Bool :=
  let n := c.toNat
  c = '"' || c = '\\' || isBreak c || isOrderMark c
    || !(0x20 ≤ n && n ≤ 0x7E || 0xA0 ≤ n && n ≤ 0xD7FF || 0xE000 ≤ n && n ≤ 0xFFFD)

def startsWithSpace (cs : List Char) : Bool := cs.head? = some ' '

/-- Writes a text between double quotes from a place on. `held` are characters that are not written
yet, the last one first; `inside` says that the place is not the first one. A fold is marked by a
backslash, and a space behind it by another one. -/
def doubleRest (indent : Nat) (folds : Bool) :
    (inside : Bool) → (held : List Char) → List Char → Pen → Pen
  | _, held, [], p => p.put held.reverse
  | inside, held, c :: rest, p =>
    let foldsHere (ready : Bool) (p : Pen) (extra : Int) : Bool :=
      inside && !rest.isEmpty && ready && Pen.width < (p.column : Int) + extra && folds
    if isEscaped c then
      let p := (p.put held.reverse).put (escape c)
      let p :=
        if foldsHere true p (-1) then
          let p := (p.put ['\\']).fold indent
          if startsWithSpace rest then p.put ['\\'] else p
        else p
      doubleRest indent folds true [] rest p
    else if foldsHere (c = ' ' || held.isEmpty) p held.length then
      let p := (p.put (held.reverse ++ ['\\'])).fold indent
      let p := if c = ' ' then p.put ['\\'] else p
      doubleRest indent folds true [c] rest p
    else doubleRest indent folds true (c :: held) rest p

def writeDouble (indent : Nat) (folds : Bool) (cs : List Char) (p : Pen) : Pen :=
  (doubleRest indent folds false [] cs (p.mark ['"'] true)).mark ['"'] false

def writeIn (style : Style) (indent : Nat) (folds : Bool) (cs : List Char) (p : Pen) : Pen :=
  match style with
  | .plain => writePlain indent folds cs p
  | .single => writeSingle indent folds cs p
  | .double => writeDouble indent folds cs p

end ReviewDiff.Yaml
