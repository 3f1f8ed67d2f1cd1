import ReviewDiff.Fault

/-!
# A git repository as its library shows it

What the library answers when a repository is opened, when a name is resolved and when an entry of a
commit's tree is read, and the failures it reports instead. What the library does not know of, such
as a failure of the operating system, comes through as well.
-/

set_option autoImplicit false

namespace ReviewDiff.Git

inductive Failure where
  /-- There is no repository at the place or above it, or none of a sort that is supported. -/
  | notRepository (kind path : String)
  | noSuchPath (path : String)
  | badName (name : String)
  | badObject (hex : String)
  | git (kind text : String)
  | value (kind text : String)
  | foreign (kind text : String)
  deriving DecidableEq, Repr

namespace Failure

def kind : Failure → String
  | .noSuchPath _ => "NoSuchPathError"
  | .badName _ => "BadName"
  | .badObject _ => "BadObject"
  | .notRepository kind _ | .git kind _ | .value kind _ | .foreign kind _ => kind

def text : Failure → String
  | .notRepository _ path | .noSuchPath path => path
  | .badName name => Fault.badNameText name
  | .badObject hex => Fault.badObjectText hex
  | .git _ text | .value _ text | .foreign _ text => text

def pass (e : Failure) : Fault :=
  match e with
  | .foreign kind text => Fault.ofKind kind text
  | other => .foreign other.kind other.text

/-- The kinds of failures that the library reports beside those with a case of their own. -/
def gitKinds : List String :=
  ["GitError", "GitCommandError", "GitCommandNotFound", "CommandError", "CacheError",
    "CheckoutError", "HookExecutionError", "RepositoryDirtyError", "UnmergedEntriesError",
    "UnsafeOptionError", "UnsafeProtocolError"]

def missingKind : String := "InvalidGitRepositoryError"

def missingKinds : List String := [missingKind, "WorkTreeRepositoryUnsupported"]

def ofKind (kind text : String) : Failure :=
  if missingKinds.contains kind then .notRepository kind text
  else if kind = "NoSuchPathError" then .noSuchPath text
  else if kind = "BadName" then .badName text
  else if kind = "BadObject" then .badObject text
  else if Fault.valueKinds.contains kind then .value kind text
  else if gitKinds.contains kind then .git kind text
  else .foreign kind text

end Failure

/-- What a path names in the tree of a commit. -/
inductive Entry where
  | file (bytes : Except Failure Bytes)
  | directory
  | submodule

structure Repository where
  workingDir : Option String
  gitDir : String
  commit : String → Except Failure String
  entry : (id : String) → (path : Points) → Except Failure (Option Entry)

abbrev Library := String → Except Failure Repository

end ReviewDiff.Git
