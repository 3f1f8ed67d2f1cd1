import ReviewDiff.Display.Literal.Quoted

/-!
# What is filled into quoted texts

A quoted text may hold expressions in curly brackets, each perhaps with a sign that shows it, a
conversion and a format. A format may hold expressions in its turn. A bracket that is written twice
stands for itself, but not in a format.
-/

set_option autoImplicit false

namespace ReviewDiff.Literal

structure Filler where
  raw : Bool
  lastLine : Nat
  tell : Fault → Fault
  read : (line : Nat) → List Char → Except Fault Nat

/-- The plain part of a text in front of a bracket: what it is, whether its last bracket was written
twice, and what follows. -/
structure PlainPart where
  plain : List Char
  doubled : Bool
  rest : List Char

def PlainPart.push (p : PlainPart) (cs : List Char) : PlainPart := { p with plain := cs ++ p.plain }

def isCurly (c : Char) : Bool := c = '\x7b' || c = '\x7d'

def cutPlain (raw doubling : Bool) : (named : Bool) → List Char → PlainPart
  | _, [] => ⟨[], false, []⟩
  | true, c :: rest => (cutPlain raw doubling (c ≠ '\x7d') rest).push [c]
  | false, c :: rest =>
    if isCurly c then
      match rest with
      | d :: after => if doubling && d = c then ⟨[c], true, after⟩ else ⟨[], false, c :: d :: after⟩
      | [] => ⟨[], false, [c]⟩
    else match rest with
      | d :: after =>
        if raw || c ≠ '\\' then (cutPlain raw doubling false (d :: after)).push [c]
        else if isCurly d then (cutPlain raw doubling false (d :: after)).push [c]
        else if d = 'N' then
          match after with
          | e :: behind => (cutPlain raw doubling (e = '\x7b') behind).push [c, d, e]
          | [] => ⟨[c, d], false, []⟩
        else (cutPlain raw doubling false after).push [c, d]
      | [] => ⟨[c], false, []⟩

/-- A quotation mark that is open in an expression, and whether it is one of three characters. -/
structure OpenMark where
  mark : Char
  long : Bool
  deriving DecidableEq, Repr

def isEndSign (c : Char) : Bool := c = '!' || c = ':' || c = '\x7d' || c = '='

def endReason (quoted : Option OpenMark) (opened : List Char) : Fault :=
  match quoted, opened with
  | some _, _ => .filling "unterminated string"
  | none, opening :: _ => .filling s!"unmatched '{opening}'"
  | none, [] => .filling "expecting '\x7d'"

/-- The signs of two characters that do not end an expression although they begin like one that
does. -/
def comparisonSigns : List (Char × Char) := [('!', '='), ('=', '='), ('<', '='), ('>', '=')]

def openedBehind (opened : List Char) (c : Char) : Except Fault (List Char) :=
  if isOpening c then
    if maxDepth ≤ opened.length then .error (.filling "too many nested parenthesis")
    else .ok (c :: opened)
  else match openingOf? c, opened with
    | none, _ => .ok opened
    | some _, [] => .error (.filling s!"unmatched '{c}'")
    | some opening, other :: outer =>
      if other = opening then .ok outer
      else .error (.filling
        s!"closing parenthesis '{c}' does not match opening parenthesis '{other}'")

def cutExpression : (quoted : Option OpenMark) → (opened : List Char) → List Char →
    Except Fault (List Char × List Char)
  | quoted, opened, [] => .error (endReason quoted opened)
  | quoted, opened, c :: rest =>
    let longer (cs : List Char) (cut : Except Fault (List Char × List Char)) :
        Except Fault (List Char × List Char) :=
      cut.map fun (text, rest) => (cs ++ text, rest)
    if c = '\\' then .error (.fillingHolds "a backslash")
    else match quoted with
      | some open_ =>
        if c ≠ open_.mark then longer [c] (cutExpression quoted opened rest)
        else if !open_.long then longer [c] (cutExpression none opened rest)
        else match rest with
          | d :: e :: after =>
            if d = c && e = c then longer [c, d, e] (cutExpression none opened after)
            else longer [c] (cutExpression quoted opened (d :: e :: after))
          | [d] => longer [c] (cutExpression quoted opened [d])
          | [] => longer [c] (cutExpression quoted opened [])
      | none =>
        if c = '\'' || c = '"' then
          match rest with
          | d :: e :: after =>
            if d = c && e = c then longer [c, d, e] (cutExpression (some ⟨c, true⟩) opened after)
            else longer [c] (cutExpression (some ⟨c, false⟩) opened (d :: e :: after))
          | [d] => longer [c] (cutExpression (some ⟨c, false⟩) opened [d])
          | [] => longer [c] (cutExpression (some ⟨c, false⟩) opened [])
        else if c = '#' then .error (.fillingHolds "'#'")
        else match rest with
          | d :: after =>
            if opened.isEmpty && comparisonSigns.contains (c, d) then
              longer [c, d] (cutExpression none opened after)
            else if opened.isEmpty && isEndSign c then .ok ([], c :: d :: after)
            else match openedBehind opened c with
              | .ok opened => longer [c] (cutExpression none opened (d :: after))
              | .error e => .error e
          | [] =>
            if opened.isEmpty && isEndSign c then .ok ([], [c])
            else match openedBehind opened c with
              | .ok opened => longer [c] (cutExpression none opened [])
              | .error e => .error e

def isBlankInFilling (c : Char) : Bool := isGap c || c = '\n'

def isBlankBehindSign (c : Char) : Bool := isBlankInFilling c || c = '\r' || c = '\x0b'

def conversions : List Char := ['s', 'r', 'a']

namespace Filler

def refuse {α : Type} (f : Filler) (reason : String) : Except Fault α :=
  .error (f.tell (.filling reason))

def goOn (f : Filler) : List Char → Except Fault (List Char)
  | [] => f.refuse "expecting '\x7d'"
  | cs => .ok cs

def expression (f : Filler) (line : Nat) (text rest : List Char) : Except Fault Nat :=
  if text.all isBlankInFilling then
    match rest.head? with
    | some '\x7d' | none => f.refuse "empty expression not allowed"
    | some c => f.refuse s!"expression required before '{c}'"
  else f.read line ('(' :: (text ++ [')']))

def behindSign (f : Filler) : List Char → Except Fault (List Char)
  | '=' :: rest => f.goOn (rest.dropWhile isBlankBehindSign)
  | rest => .ok rest

def behindConversion (f : Filler) : List Char → Except Fault (List Char)
  | '!' :: rest => do
    match ← f.goOn rest with
    | c :: rest =>
      if conversions.contains c then return rest
      else f.refuse "invalid conversion character: expected 's', 'r', or 'a'"
    | [] => return []
  | rest => .ok rest

mutual

/-- Reads plain parts and fillings: the height of the fillings and what follows. Inside a format
that is the bracket that ends it. -/
def parts (f : Filler) : (fuel : Nat) → (level : Nat) → List Char → Except Fault (Nat × List Char)
  | 0, _, cs => .ok (0, cs)
  | fuel + 1, level, cs => do
    let part := cutPlain f.raw (level = 0) false cs
    if level = 0 && !part.doubled && part.rest.head? = some '\x7d' then
      f.refuse "single '\x7d' is not allowed"
    (checkPlain f.raw part.plain).mapError f.tell
    match part.doubled, part.rest with
    | false, '\x7b' :: inner =>
      let line := f.lastLine - (part.rest.count '\n')
      let (height, rest) ← filling f fuel level line inner
      let (others, rest) ← parts f fuel level rest
      return (max height others, rest)
    | false, [] => if level = 0 then return (0, []) else f.refuse "expecting '\x7d'"
    | false, rest => return (0, rest)
    | true, rest => parts f fuel level rest

def filling (f : Filler) : (fuel : Nat) → (level line : Nat) → List Char →
    Except Fault (Nat × List Char)
  | 0, _, _, cs => .ok (0, cs)
  | fuel + 1, level, line, cs => do
    if 2 ≤ level then f.refuse "expressions nested too deeply"
    let (text, rest) ← (cutExpression none [] cs).mapError f.tell
    let height ← f.expression line text rest
    let rest ← f.behindSign rest
    let rest ← f.behindConversion rest
    let (format, rest) ← match rest with
      | ':' :: rest => do parts f fuel (level + 1) (← f.goOn rest)
      | rest => pure (0, rest)
    match rest with
    | '\x7d' :: rest => return (max height (format + 1) + 1, rest)
    | _ => f.refuse "expecting '\x7d'"

end

def height (f : Filler) (content : List Char) : Except Fault Nat :=
  (f.parts (2 * content.length + 2) 0 content).map Prod.fst

end Filler

end ReviewDiff.Literal
