import ReviewDiff.Display.Literal.Reader

/-!
# Literals

A literal is a number, a quoted text, a constant, or a tuple, a set or a map of literals. All
expressions can be read, so that a slip in one is told by its name; only literals have a value. What
a set or the keys of a map hold must be fit for it: maps and sets are not.
-/

set_option autoImplicit false

namespace ReviewDiff.Literal

inductive Misfit where
  | notLiteral
  | unpacked
  | unfit (kind : String)
  | tooGreat
  | tooDeep
  deriving DecidableEq, Repr

def Misfit.message : Misfit → String
  | .notLiteral => "malformed node or string on line 1"
  | .unpacked => "malformed node or string: None"
  | .unfit kind => s!"unhashable type: '{kind}'"
  | .tooGreat => "int too large to convert to float"
  | .tooDeep => "maximum recursion depth exceeded during ast construction"

inductive Refusal where
  | nullCharacter
  | slip (e : Fault)
  | misfit (e : Misfit)
  deriving DecidableEq, Repr

/-- A sum of a term and an imaginary number: the term has to be a real number. -/
def checkReal : Term → Except Misfit Unit
  | .number false huge | .signed (.number false huge) =>
    if huge then .error .tooGreat else .ok ()
  | _ => .error .notLiteral

mutual

/-- The kind of a literal that neither sets hold nor keys are, if it is of one. -/
def unfitKind : Term → Except Misfit (Option String)
  | .number .. | .quoted | .constant _ | .signed (.number ..) => .ok none
  | .tuple items => unfitAmong items
  | .collection items => do
    fitAll items
    return some "set"
  | .map entries => do
    fitKeys entries
    return some "dict"
  | .sum left (.number true _) => (checkReal left).map fun _ => none
  | .call (.name "set") true _ => .ok (some "set")
  | _ => .error .notLiteral

def unfitAmong : List Term → Except Misfit (Option String)
  | [] => .ok none
  | t :: rest => do
    let first ← unfitKind t
    let others ← unfitAmong rest
    return first <|> others

def fitAll : List Term → Except Misfit Unit
  | [] => .ok ()
  | t :: rest => do
    match ← unfitKind t with
    | some kind => throw (.unfit kind)
    | none => fitAll rest

def fitKeys : List (Option Term × Term) → Except Misfit Unit
  | [] => .ok ()
  | (none, _) :: _ => .error .unpacked
  | (some key, value) :: rest => do
    let kind ← unfitKind key
    let _ ← unfitKind value
    match kind with
    | some kind => throw (.unfit kind)
    | none => fitKeys rest

end

def maxHeight : Nat := 2880

def check (cs : List Char) : Except Refusal Unit :=
  if cs.contains '\x00' then .error .nullCharacter
  else match readWhole cs with
    | .error e => .error (.slip e)
    | .ok term =>
      if maxHeight < term.height then .error (.misfit .tooDeep)
      else match unfitKind term with
        | .error e => .error (.misfit e)
        | .ok _ => .ok ()

end ReviewDiff.Literal
