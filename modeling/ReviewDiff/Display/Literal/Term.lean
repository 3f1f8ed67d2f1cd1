/-!
# Terms

What an expression is, as far as it matters for its value and for how a slip in it is told. Where
the parts of a term do not matter only the height of the term is kept.
-/

set_option autoImplicit false

namespace ReviewDiff.Literal

inductive Term where
  | number (imaginary huge : Bool)
  | quoted
  | constant (name : String)
  | name (text : String)
  | tuple (items : List Term)
  | collection (items : List Term)
  | map (entries : List (Option Term × Term))
  | signed (term : Term)
  | sum (left right : Term)
  | call (of : Term) (empty : Bool) (height : Nat)
  | starred (term : Term)
  /-- A comparison; `membership` says that it asks first whether its left side is in something. -/
  | comparison (membership : Bool) (left : Term) (height : Nat)
  | other (kind : String) (height : Nat)

namespace Term

def kind : Term → String
  | number .. | quoted => "literal"
  | constant word => word
  | name _ => "name"
  | tuple _ => "tuple"
  | collection _ => "set display"
  | map _ => "dict literal"
  | signed _ | sum .. => "expression"
  | call .. => "function call"
  | starred _ => "starred"
  | comparison .. => "comparison"
  | other kind _ => kind

/-- The kind of a term with a member behind a point. -/
def memberKind : String := "attribute"

mutual

def height : Term → Nat
  | number .. | quoted | constant _ | name _ => 1
  | tuple items | collection items => heightOfAll items + 1
  | map entries => heightOfEntries entries + 1
  | signed term | starred term => term.height + 1
  | sum left right => max left.height right.height + 1
  | call _ _ height | comparison _ _ height | other _ height => height

def heightOfAll : List Term → Nat
  | [] => 0
  | t :: rest => max t.height (heightOfAll rest)

def heightOfEntries : List (Option Term × Term) → Nat
  | [] => 0
  | (some key, value) :: rest => max (max key.height value.height) (heightOfEntries rest)
  | (none, value) :: rest => max value.height (heightOfEntries rest)

end

mutual

/-- The kind of the first part of a target that takes no value. Of a question whether something is
in something only the former counts. -/
def misfit? : Term → Option String
  | tuple items => misfitAmong items
  | starred term => term.misfit?
  | comparison membership left _ => if membership then left.misfit? else none
  | name _ => none
  | other kind _ => if kind = memberKind then none else some kind
  | constant word => some word
  | number .. | quoted => some "literal"
  | collection _ => some "set display"
  | map _ => some "dict literal"
  | signed _ | sum .. => some "expression"
  | call .. => some "function call"

def misfitAmong : List Term → Option String
  | [] => none
  | t :: rest => t.misfit? <|> misfitAmong rest

end

def oldStatements : List String := ["print", "exec"]

def oldStatement? : Term → Option String
  | name word => if oldStatements.contains word then some word else none
  | _ => none

end Term

end ReviewDiff.Literal
