import ReviewDiff.Display.Literal.Fault
import ReviewDiff.Text.Names
import ReviewDiff.Text.Printable

/-!
# Tokens of literals

Cuts the text of a literal into tokens. A text that no token can be made of ends the cutting with a
fault. Brackets are counted, so that every token knows how deep it stands. Outside of brackets a line
that is set in deeper than the one before starts with a token of its own.
-/

set_option autoImplicit false

namespace ReviewDiff.Literal

structure Marks where
  raw : Bool
  bytes : Bool
  filled : Bool
  deriving DecidableEq, Repr

inductive Token where
  | name (text : String)
  | number (text : List Char)
  | quoted (marks : Marks) (content : List Char)
  | sign (text : String)
  | newline
  | indent
  | fault (e : Fault)
  | stop (met : Bool)
  deriving DecidableEq, Repr

abbrev Open := List (Char × Nat)

/-- A token with the line it stands on and the brackets that are open behind it. -/
structure Placed where
  token : Token
  line : Nat
  depth : Nat
  innermost : Option (Char × Nat)
  deriving DecidableEq, Repr

namespace Placed

def of (token : Token) (line : Nat) (opened : Open) : Placed :=
  ⟨token, line, opened.length, opened.head?⟩

def fault? (t : Placed) : Option Fault :=
  match t.token, t.innermost with
  | .fault .unexpectedEnd, some (opening, _) => some (.neverClosed opening)
  | .fault e, _ => some e
  | .stop _, some (opening, _) => some (.neverClosed opening)
  | _, _ => none

end Placed

def startsWord (c : Char) : Bool := c.isAlpha || c = '_' || !Numeral.isAscii c

def continuesWord (c : Char) : Bool := startsWord c || c.isDigit

abbrev Cut := Except Fault (List Char × List Char)

def digits (isDigit : Char → Bool) (misfit : Char → Fault) (missing : Fault) : List Char → Cut
  | [] => .error missing
  | c :: rest =>
    if !isDigit c then .error (misfit c)
    else
      let longer (ds : Cut) : Cut := ds.map fun (ds, after) => (c :: ds, after)
      match rest with
      | [] => .ok ([c], [])
      | d :: after =>
        if d = '_' then longer (digits isDigit misfit missing after)
        else if isDigit d then longer (digits isDigit misfit missing (d :: after))
        else .ok ([c], d :: after)

def decimal : List Char → Cut :=
  digits Char.isDigit (fun _ => .number "decimal") (.number "decimal")

def wordsBehindNumber : List (String × Bool) :=
  [("and", true), ("else", true), ("for", true), ("if", false), ("in", false), ("is", false),
    ("not", true), ("or", true)]

def maySucceedNumber (cs : List Char) : Bool :=
  wordsBehindNumber.any fun (word, ends) =>
    word.toList.isPrefixOf cs && !(ends && (cs.drop word.length).head?.any continuesWord)

def endNumber (kind : String) (digits rest : List Char) : Cut :=
  if rest.head?.any continuesWord && !maySucceedNumber rest then .error (.number kind)
  else .ok (digits, rest)

def imaginaryPart (digits : List Char) : List Char → Cut
  | c :: rest =>
    if c = 'j' || c = 'J' then endNumber "imaginary" (digits ++ ['j']) rest
    else endNumber "decimal" digits (c :: rest)
  | [] => .ok (digits, [])

def exponentPart (front : List Char) : List Char → Cut
  | c :: d :: rest =>
    if c = 'e' || c = 'E' then
      if d = '+' || d = '-' then do
        let (power, after) ← decimal rest
        imaginaryPart (front ++ 'e' :: d :: power) after
      else if d.isDigit then do
        let (power, after) ← decimal (d :: rest)
        imaginaryPart (front ++ 'e' :: power) after
      else endNumber "decimal" front (c :: d :: rest)
    else imaginaryPart front (c :: d :: rest)
  | rest => imaginaryPart front rest

def fractionPart (front rest : List Char) : Cut :=
  if rest.head?.any Char.isDigit then do
    let (places, after) ← decimal rest
    exponentPart (front ++ '.' :: places) after
  else exponentPart (front ++ ['.']) rest

def bases : List (Char × String × (Char → Bool)) :=
  [('x', "hexadecimal", fun c => c.isDigit || 'a' ≤ c.toLower && c.toLower ≤ 'f'),
    ('o', "octal", fun c => '0' ≤ c && c ≤ '7'), ('b', "binary", fun c => c = '0' || c = '1')]

def inBase (letter : Char) (kind : String) (isDigit : Char → Bool) (cs : List Char) : Cut := do
  let misfit (c : Char) : Fault := if c.isDigit then .digit c kind else .number kind
  let (ds, rest) ← digits isDigit misfit (.number kind)
    (if cs.head? = some '_' then cs.drop 1 else cs)
  match rest.head? with
  | some c => if c.isDigit then throw (.digit c kind)
  | none => pure ()
  endNumber kind ('0' :: letter :: ds) rest

def decimalNumber (cs : List Char) : Cut := do
  let (ds, rest) ← decimal cs
  match rest with
  | c :: after =>
    if c = '.' then fractionPart ds after
    else if ['e', 'E', 'j', 'J'].contains c then exponentPart ds rest
    else if ds.head? = some '0' && ds.any (· ≠ '0') then throw .leadingZeros
    else endNumber "decimal" ds rest
  | [] => if ds.head? = some '0' && ds.any (· ≠ '0') then throw .leadingZeros else return (ds, [])

def cutNumber : List Char → Cut
  | '0' :: c :: rest =>
    match bases.find? fun b => b.1 = c.toLower with
    | some (letter, kind, isDigit) => inBase letter kind isDigit rest
    | none => decimalNumber ('0' :: c :: rest)
  | cs => decimalNumber cs

def marks? (letters : List Char) : Option Marks :=
  let small := letters.map Char.toLower
  let raw := small.contains 'r'
  if small = [] || small = ['u'] then some ⟨false, false, false⟩
  else if small.length = 1 && raw then some ⟨true, false, false⟩
  else if small.length ≤ 2 && small.all (fun c => c = 'b' || c = 'r') && small.count 'b' = 1 then
    some ⟨raw, true, false⟩
  else if small.length ≤ 2 && small.all (fun c => c = 'f' || c = 'r') && small.count 'f' = 1 then
    some ⟨raw, false, true⟩
  else none

/-- What stands up to the end of a quoted text; none when it does not end. A quotation mark of one
character does not reach over the end of a line. -/
def cutQuoted (mark : List Char) : List Char → Option (List Char × List Char)
  | [] => none
  | c :: rest =>
    if mark.isPrefixOf (c :: rest) then some ([], (c :: rest).drop mark.length)
    else if c = '\n' && mark.length = 1 then none
    else match rest with
      | d :: after =>
        if c = '\\' then (cutQuoted mark after).map fun (cs, behind) => (c :: d :: cs, behind)
        else (cutQuoted mark (d :: after)).map fun (cs, behind) => (c :: cs, behind)
      | [] => none

def openingMark : List Char → List Char
  | c :: d :: e :: _ => if c = d && d = e then [c, c, c] else [c]
  | cs => cs.take 1

/-- The line on which the end of a quoted text is missed: that of its first unescaped line end, or
the last. -/
def missedLine (long : Bool) (line : Nat) : List Char → Nat
  | '\\' :: c :: rest => missedLine long (if c = '\n' then line + 1 else line) rest
  | '\n' :: rest => if long then missedLine long (line + 1) rest else line
  | _ :: rest => missedLine long line rest
  | [] => line

def longSigns : List String :=
  ["**=", "//=", "<<=", ">>=", "...", "**", "//", "<<", ">>", "==", "!=", "<=", ">=", "<>", "->",
    "+=", "-=", "*=", "/=", "%=", "&=", "|=", "^=", "@=", ":="]

def maxDepth : Nat := 200

def openingOf? (c : Char) : Option Char :=
  if c = ')' then some '(' else if c = ']' then some '[' else if c = '\x7d' then some '\x7b' else none

def isOpening (c : Char) : Bool := c = '(' || c = '[' || c = '\x7b'

def cutSign (opened : Open) (line : Nat) (c : Char) : Except Fault (Token × Open) :=
  if isOpening c then
    if maxDepth ≤ opened.length then .error .tooDeep
    else .ok (.sign (String.singleton c), (c, line) :: opened)
  else match openingOf? c, opened with
    | some _, [] => .error (.unmatched c)
    | some opening, (other, at_) :: outer =>
      if other = opening then .ok (.sign (String.singleton c), outer)
      else .error (.mismatched c other (if at_ = line then none else some at_))
    | none, _ =>
      if Text.isPrintable c then .ok (.sign (String.singleton c), opened)
      else .error (.hiddenCharacter c)

def misfit? (word : List Char) : Option Char :=
  match word with
  | [] => none
  | c :: rest => if Text.startsName c then rest.find? fun d => !Text.continuesName d else some c

def cutName (cs : List Char) : Except Fault (String × List Char) :=
  let word := cs.takeWhile continuesWord
  match misfit? word with
  | some c => .error (if Text.isPrintable c then .character c else .hiddenCharacter c)
  | none => .ok (String.ofList word, cs.drop word.length)

def quotedAt? (cs : List Char) : Option (Marks × List Char) :=
  let letters := cs.takeWhile Char.isAlpha
  match cs.drop letters.length with
  | c :: rest =>
    if c = '\'' || c = '"' then (marks? letters).map fun marks => (marks, c :: rest) else none
  | [] => none

def isGap (c : Char) : Bool := c = ' ' || c = '\t' || c = '\x0c'

/-- How far a line is set in: the column, with tabs up to every eighth column, the blanks in front of
it, and the column where the line first went on in the next one. -/
structure Margin where
  column : Nat
  blanks : Nat
  kept : Nat
  deriving DecidableEq, Repr

namespace Margin

def start : Margin := ⟨0, 0, 0⟩

def add (m : Margin) (c : Char) : Margin :=
  if c = '\t' then { m with column := (m.column / 8 + 1) * 8, blanks := m.blanks + 1 }
  else if c = '\x0c' then { m with column := 0, blanks := 0 }
  else { m with column := m.column + 1, blanks := m.blanks + 1 }

def goOn (m : Margin) : Margin := if m.kept = 0 then { m with kept := m.column } else m

def measure (m : Margin) : Nat × Nat :=
  if m.kept = 0 then (m.column, m.blanks) else (m.kept, m.kept)

end Margin

/-- The margins of the lines around a line that is set in, the innermost first, and whether the line
is set in deeper than they are; none if it fits none of them. -/
def indentation? (m : Margin) : List (Nat × Nat) → Option (Bool × List (Nat × Nat))
  | [] => if m.measure.1 = 0 then some (false, []) else some (true, [m.measure])
  | around :: outer =>
    let (column, blanks) := m.measure
    if column = around.1 then
      if blanks = around.2 then some (false, around :: outer) else none
    else if around.1 < column then
      if around.2 < blanks then some (true, (column, blanks) :: around :: outer) else none
    else
      match indentation? m outer with
      | some (false, left) => some (false, left)
      | _ => none

def Token.looksAhead : Token → Bool
  | .name _ | .number _ => true
  | .sign s => s.length < 3
  | _ => false

/-- Where a text is cut: what is open, the line, its margin while it holds nothing but blanks, and
the margins of the lines around it. -/
structure Stance where
  opened : Open
  line : Nat
  margin : Option Margin
  indents : List (Nat × Nat)

namespace Stance

/-- At the front of a text that begins on a line. -/
def start (line : Nat) : Stance := ⟨[], line, some .start, []⟩

def place (s : Stance) (token : Token) : Placed := .of token s.line s.opened

/-- Inside a line. -/
def inside (s : Stance) (lines : Nat) : Stance := { s with line := s.line + lines, margin := none }

def nextLine (s : Stance) : Stance :=
  { s with line := s.line + 1, margin := if s.opened.isEmpty then some .start else none }

end Stance

def cutToken (s : Stance) (cs : List Char) : Except Fault (Placed × Stance × List Char) :=
  let found (token : Token) (lines : Nat) (after : List Char) :
      Except Fault (Placed × Stance × List Char) :=
    .ok (s.place token, s.inside lines, after)
  match cs with
  | [] => found (.stop false) 0 []
  | c :: rest =>
    match quotedAt? cs with
    | some (marks, quoted) =>
      let mark := openingMark quoted
      let long := mark.length = 3
      let body := quoted.drop mark.length
      match cutQuoted mark body with
      | some (content, after) => found (.quoted marks content) (content.count '\n') after
      | none =>
        let missed := missedLine long s.line body
        .error (if long then .unterminatedLong missed else .unterminated missed)
    | none =>
      if startsWord c then do
        let (word, after) ← cutName cs
        found (.name word) 0 after
      else if c.isDigit || c = '.' && rest.head?.any Char.isDigit then do
        let (digits, after) ← if c = '.' then fractionPart [] rest else cutNumber cs
        found (.number digits) 0 after
      else match longSigns.find? fun sign => sign.toList.isPrefixOf cs with
        | some sign => found (.sign sign) 0 (cs.drop sign.length)
        | none => do
          let (token, opened) ← cutSign s.opened s.line c
          let s := { s.inside 0 with opened := opened }
          return (s.place token, s, rest)

def tokensFrom : (fuel : Nat) → (before : List Placed) → Stance → List Char → List Placed
  | 0, before, s, _ => (s.place (.stop false) :: before).reverse
  | _ + 1, before, s, [] => (s.place (.stop false) :: before).reverse
  | fuel + 1, before, s, c :: rest =>
    if isGap c then
      tokensFrom fuel before { s with margin := s.margin.map fun m => m.add c } rest
    else if c = '#' then tokensFrom fuel before s (rest.dropWhile (· ≠ '\n'))
    else if c = '\n' then
      let isBlank := s.margin.isSome || !s.opened.isEmpty
      tokensFrom fuel (if isBlank then before else s.place .newline :: before) s.nextLine rest
    else if c = '\\' then
      match rest with
      | ['\n'] => (s.place (.fault .unexpectedEnd) :: before).reverse
      | '\n' :: after =>
        let s := { s with line := s.line + 1, margin := s.margin.map Margin.goOn }
        tokensFrom fuel before s after
      | _ => (s.place (.fault .continuation) :: before).reverse
    else
      let indentation := match s.margin with
        | none => some (false, s.indents)
        | some m => indentation? m s.indents
      match indentation with
      | none => (s.place (.stop false) :: before).reverse
      | some (deeper, indents) =>
        let s := { s with indents := indents }
        let before := if deeper then s.place .indent :: before else before
        match cutToken s (c :: rest) with
        | .ok (token, s, []) =>
          (s.place (.stop token.token.looksAhead) :: token :: before).reverse
        | .ok (token, s, after) => tokensFrom fuel (token :: before) s after
        | .error e => (s.place (.fault e) :: before).reverse

def plainLines : List Char → List Char
  | '\r' :: '\n' :: rest => '\n' :: plainLines rest
  | '\r' :: rest => '\n' :: plainLines rest
  | c :: rest => c :: plainLines rest
  | [] => []

def tokensAt (line : Nat) (cs : List Char) : List Placed :=
  let cs := plainLines cs
  tokensFrom (cs.length + 1) [] (.start line) cs

end ReviewDiff.Literal
