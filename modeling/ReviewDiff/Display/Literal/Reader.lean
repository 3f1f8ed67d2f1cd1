import ReviewDiff.Display.Literal.Filled
import ReviewDiff.Display.Literal.Machine

/-!
# Reading expressions

A text is read without an eye for slips first. Only where that fails is it read again, and then a
slip may be told by its name. A slip is not told where the rest of the text cannot be cut into
tokens, or where a bracket of an earlier line is still open at the end: that counts more.
-/

set_option autoImplicit false

namespace ReviewDiff.Literal

def laterFault? (tokens : Array Placed) (seen : Nat) : Option Fault :=
  let line := ((tokens[seen - 1]?).map Placed.line).getD 0
  match tokens.back? with
  | none => none
  | some final =>
    let unclosed := match final.innermost with
      | some (opening, at_) => if at_ < line then some (.neverClosed opening) else none
      | none => none
    if tokens.size ≤ seen then none
    else match final.token with
      | .fault .continuation | .fault .unexpectedEnd => unclosed
      | .fault e => some e
      | _ => unclosed

def endMet (tokens : Array Placed) (seen : Nat) : Bool :=
  (tokens.back?).any (·.token = .stop true) && tokens.size ≤ seen + 1

def settle (tokens : Array Placed) (seen : Nat) (e : Fault) : Fault :=
  if e = .exhausted || endMet tokens seen then e else (laterFault? tokens seen).getD e

def plainFault (g : Ground) (firstSeen seen : Nat) : Fault :=
  match (g.tokens[firstSeen - 1]?).map Placed.token with
  | some .indent => .unexpectedIndent
  | _ => (laterFault? g.tokens seen).getD (g.tell .invalid)

def readTokens (g : Ground) (r : Rule) : Except Fault Term :=
  match Machine.start g false r with
  | (.found (some (.term t)), _) => .ok t
  | (.lexical e, _) => .error e
  | (.slip e, seen) => .error (settle g.tokens seen e)
  | (.found _, firstSeen) =>
    match Machine.start g true r with
    | (.lexical e, _) => .error e
    | (.slip e, seen) => .error (settle g.tokens (max firstSeen seen) e)
    | (.found _, seen) => .error (plainFault g firstSeen (max firstSeen seen))

structure Joiner where
  tell : Fault → Fault
  read : (line : Nat) → List Char → Except Fault Nat

namespace Joiner

def filledHeight (j : Joiner) (line : Nat) (marks : Marks) (content : List Char) :
    Except Fault Nat :=
  if marks.filled then
    Filler.height ⟨marks.raw, line + content.count '\n', j.tell, j.read⟩ content
  else .ok 0

def heightFrom (j : Joiner) : (bytes : Option Bool) → List Placed → Except Fault Nat
  | _, [] => .ok 0
  | bytes, t :: rest =>
    match t.token with
    | .quoted marks content => do
      (checkQuoted marks content).mapError j.tell
      if bytes.any (· ≠ marks.bytes) then throw (j.tell .mixedBytes)
      let height ← j.filledHeight t.line marks content
      let others ← j.heightFrom (some marks.bytes) rest
      return max height others
    | _ => j.heightFrom bytes rest

def isFilled (t : Placed) : Bool :=
  match t.token with
  | .quoted marks _ => marks.filled
  | _ => false

/-- The term that quoted texts beside each other are. -/
def join (j : Joiner) (run : List Placed) : Except Fault Term :=
  (j.heightFrom none run).map fun height =>
    if run.any isFilled then .other "f-string expression" (height + 1) else .quoted

end Joiner

/-- The height of an expression that is filled in, in brackets. Expressions that are filled into it
may stand as deep in each other as `fuel` says. -/
def readFilling : (fuel : Nat) → (line : Nat) → List Char → Except Fault Nat
  | 0, _, _ => .error .exhausted
  | fuel + 1, line, cs =>
    let joiner : Joiner := ⟨.filled, readFilling fuel⟩
    (readTokens ⟨(tokensAt line cs).toArray, joiner.join, .filled⟩ .filling).map Term.height

def readWhole (cs : List Char) : Except Fault Term :=
  let joiner : Joiner := ⟨id, readFilling cs.length⟩
  readTokens ⟨(tokensAt 1 cs).toArray, joiner.join, id⟩ .whole

end ReviewDiff.Literal
