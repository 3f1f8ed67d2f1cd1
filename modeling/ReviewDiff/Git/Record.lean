import ReviewDiff.Data.Assoc
import ReviewDiff.Git.Repository
import ReviewDiff.Text.Hex

/-!
# Recorded repositories

A repository written down in a document: its names, the files of its commits, and the failures that
opening, resolving or reading shall end with. It answers for every path in its working tree.
-/

set_option autoImplicit false

namespace ReviewDiff.Git

inductive RecordedEntry where
  | file (bytes : Bytes)
  | submodule
  deriving DecidableEq, Repr

structure Record where
  root : String
  bare : Bool
  commits : Assoc String (Assoc Points RecordedEntry)
  refs : Assoc String String
  openFailure : Option Failure
  refFailures : Assoc String Failure
  blobFailures : Assoc Points Failure
  deriving Repr

namespace Record

def commit (r : Record) (name : String) : Except Failure String :=
  match r.refFailures.get? name with
  | some e => .error e
  | none =>
    let id := (r.refs.get? name).getD name
    if r.commits.contains id then .ok id else .error (.badName name)

def isAbove (files : Assoc Points RecordedEntry) (path : Points) : Bool :=
  files.any fun f => (path ++ [PathChar.slash]).isPrefixOf f.1

def entry (r : Record) (id : String) (path : Points) : Except Failure (Option Entry) :=
  let files := (r.commits.get? id).getD []
  .ok (match files.get? path with
    | some (.file bytes) =>
      some (.file (match r.blobFailures.get? path with
        | some e => .error e
        | none => .ok bytes))
    | some .submodule => some .submodule
    | none => if isAbove files path then some .directory else none)

def holds (r : Record) (path : String) : Bool :=
  path = r.root || (r.root.toList ++ ['/']).isPrefixOf path.toList

/-- The repository of a record, when it is opened by a path. -/
def library (r : Record) : Library := fun path =>
  match r.openFailure with
  | some e => .error e
  | none =>
    if r.holds path then
      .ok ⟨if r.bare then none else some r.root, r.root ++ "/.git", r.commit, r.entry⟩
    else .error (.notRepository Failure.missingKind path)

/-- File content: a text stands for its bytes, an object may spell them in hexadecimal. -/
def content? : Json → Option Bytes
  | .str s => some (Utf8.encodeText s)
  | .obj members =>
    match Assoc.get? members "hex" with
    | some (.str hex) => some (Bytes.ofHex hex)
    | _ => none
  | _ => none

def recorded? (j : Json) : Option RecordedEntry :=
  match j.member? "submodule" with
  | some (.bool true) => some .submodule
  | _ => (content? j).map .file

def membersOf : Option Json → List (String × Json)
  | some (.obj members) => members
  | _ => []

def textOf? : Option Json → Option String
  | some (.str s) => some s
  | _ => none

def failure? : Option Json → Option Failure
  | some (.obj members) =>
    some (.ofKind ((textOf? (Assoc.get? members "kind")).getD "")
      ((textOf? (Assoc.get? members "message")).getD ""))
  | _ => none

def failures (j : Option Json) : Assoc String Failure :=
  (membersOf j).filterMap fun (name, e) => (failure? (some e)).map fun e => (name, e)

def ofJson (root : String) (j : Json) : Record where
  root := root
  bare := j.member? "bare" matches some (.bool true)
  commits := (membersOf (j.member? "commits")).map fun (id, files) =>
    (id, (membersOf (some files)).filterMap fun (path, e) =>
      (recorded? e).map fun e => ((path : Points), e))
  refs := (membersOf (j.member? "refs")).filterMap fun (name, id) =>
    (textOf? (some id)).map fun id => (name, id)
  openFailure := failure? (j.member? "open_error")
  refFailures := failures (j.member? "ref_errors")
  blobFailures := (failures (j.member? "blob_errors")).map fun (path, e) => (path, e)

end Record

end ReviewDiff.Git
