import ReviewDiff.Json.Value
import ReviewDiff.Text.Quoted

/-!
# Values in messages

How a value that was refused is shown: texts between quotation marks, lists between brackets, and
the constants as `None`, `True` and `False`.
-/

set_option autoImplicit false

namespace ReviewDiff.Json

mutual

def shown : Json → String
  | .null => "None"
  | .bool b => if b then "True" else "False"
  | .int n => toString n
  | .float x => x.plain
  | .str s => Text.quote s
  | .arr items => "[" ++ shownItems items ++ "]"
  | .obj members => "\x7b" ++ shownMembers members ++ "\x7d"

def shownItems : List Json → String
  | [] => ""
  | [last] => shown last
  | item :: rest => shown item ++ ", " ++ shownItems rest

def shownMembers : List (String × Json) → String
  | [] => ""
  | [(name, last)] => Text.quote name ++ ": " ++ shown last
  | (name, item) :: rest => Text.quote name ++ ": " ++ shown item ++ ", " ++ shownMembers rest

end

/-- The text of a value: a text is itself. -/
def asText : Json → String
  | .str s => s
  | other => shown other

end ReviewDiff.Json
