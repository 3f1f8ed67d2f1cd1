import ReviewDiff.Fault

/-!
# Forms of requests

A request gives what it is about by words. Its form says which words it needs and which it allows
beside them. A word that the form does not know is a fault, and so is one that it needs and does not
get; an unknown word counts first. What is asked of the screen is given in the order of the words
instead, and only how much is given can be wrong.
-/

set_option autoImplicit false

namespace ReviewDiff

structure RequestForm where
  name : String
  needed : List String
  allowed : List String
  deriving DecidableEq, Repr

namespace RequestForm

/-- The form of a question to the service for a complete diff. -/
def complete (question : String) : RequestForm :=
  ⟨"DiffService." ++ question, ["path", "old_ref", "new_ref"], []⟩

def fileCommand : RequestForm :=
  ⟨"cmd_file", ["path"], ["old_ref", "new_ref", "context_lines", "repo"]⟩

def completeCommand : RequestForm := ⟨"cmd_complete", ["path", "old_ref", "new_ref"], ["repo"]⟩

def notices : List (String × RequestForm) :=
  let form (name : String) (needed allowed : List String) : String × RequestForm :=
    (name, ⟨"CLIDisplay." ++ name, needed, allowed⟩)
  [form "status" ["message"] [], form "success" ["message"] [], form "info" ["message"] [],
    form "error" ["message"] ["details"], form "json_output" ["data"] ["format", "indent"]]

def listed : List String → String
  | [] => ""
  | [only] => s!"'{only}'"
  | [first, last] => s!"'{first}' and '{last}'"
  | several =>
    String.intercalate ", " (several.dropLast.map fun word => s!"'{word}'")
      ++ (several.getLast?.map fun word => s!", and '{word}'").getD ""

def missingText (words : List String) : String :=
  let noun := if words.length = 1 then "argument" else "arguments"
  s!"missing {words.length} required positional {noun}: {listed words}"

def misfit? (form : RequestForm) (given : List String) : Option String :=
  match given.find? fun word => !(form.needed ++ form.allowed).contains word with
  | some word => some s!"got an unexpected keyword argument '{word}'"
  | none =>
    match form.needed.filter fun word => !given.contains word with
    | [] => none
    | missing => some (missingText missing)

def excessText (form : RequestForm) (given : Nat) : String :=
  let least := form.needed.length + 1
  let most := least + form.allowed.length
  let expected := if least = most then toString most else s!"from {least} to {most}"
  s!"takes {expected} positional arguments but {given + 1} were given"

/-- Refuses more or less than the form takes, given in the order of its words. -/
def checkCount (form : RequestForm) (given : Nat) : Except Fault Unit :=
  let refuse (reason : String) : Except Fault Unit :=
    .error (.foreign "TypeError" s!"{form.name}() {reason}")
  if form.needed.length + form.allowed.length < given then refuse (form.excessText given)
  else if given < form.needed.length then refuse (missingText (form.needed.drop given))
  else .ok ()

def notice (name : String) : Except Fault RequestForm :=
  match notices.find? fun n => n.1 = name with
  | some (_, form) => .ok form
  | none => .error (.foreign "AttributeError" s!"'CLIDisplay' object has no attribute '{name}'")

def check (form : RequestForm) (given : List String) : Except Fault Unit :=
  match form.misfit? given with
  | some reason => .error (.foreign "TypeError" s!"{form.name}() {reason}")
  | none => .ok ()

end RequestForm

end ReviewDiff
