import ReviewDiff.Display.Literal
import ReviewDiff.Text.Blank
import ReviewDiff.Text.Quoted

/-!
# Handlers

The parameters of a tag for a handler are the handler's name and its arguments in brackets, or a
literal alone. Arguments are literals.
-/

set_option autoImplicit false

namespace ReviewDiff.Handler

inductive Fault where
  | arguments (text parameters : String) (e : Literal.Fault)
  | value (parameters reason : String)
  deriving DecidableEq, Repr

def Fault.message : Fault → String
  | .arguments text parameters e =>
    s!"error parsing {Text.quote text} in {Text.quote parameters}; {e.message}"
  | .value parameters reason => s!"error parsing {Text.quote parameters}; {reason}"

def isNameChar (c : Char) : Bool := c = '.' || Text.isWordChar c

/-- The arguments of parameters that are a name, and brackets behind it if there are any. -/
def arguments? (cs : List Char) : Option (List Char) :=
  match cs.dropWhile isNameChar with
  | [] => some ['(', ')']
  | '(' :: rest => if rest.getLast? = some ')' && !rest.contains '\n' then some ('(' :: rest) else none
  | _ => none

def fault (text parameters : String) : Literal.Refusal → Fault
  | .nullCharacter => .value parameters "source code string cannot contain null bytes"
  | .slip .exhausted => .value parameters Literal.Fault.exhausted.message
  | .slip e => .arguments text parameters e
  | .misfit e => .value parameters e.message

def check (parameters : List Char) : Except Fault Unit :=
  let trimmed := Text.trimChars parameters
  let text := (arguments? trimmed).getD trimmed
  (Literal.check text).mapError (fault (String.ofList text) (String.ofList parameters))

end ReviewDiff.Handler
