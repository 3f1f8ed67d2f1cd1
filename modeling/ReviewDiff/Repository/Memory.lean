import ReviewDiff.Repository.Store

/-!
# A repository in memory

Commits as tables of files, names for them, and a working tree whose files may have several versions
to come: every read takes the first and the last one stays. Names and paths may be set to fail.
Reads are counted.
-/

set_option autoImplicit false

namespace ReviewDiff

structure MemoryRepository where
  commits : Assoc String (Assoc Points (Option Bytes))
  refs : Assoc String String
  worktree : Assoc Points (List (Option Bytes))
  failing : Assoc Points Fault
  links : Path.Links
  blobReads : Nat
  worktreeReads : Nat

namespace MemoryRepository

def identity : String := "mem"

def resolveRef (name : String) : Work MemoryRepository String := do
  let r ← Work.get
  match r.failing.get? name, r.refs.get? name with
  | some fault, _ => Work.fail fault
  | none, some id => return id
  | none, none => if r.commits.contains name then return name else Work.fail (.refNotFound name "")

def readBlob (id : String) (path : RepoPath) : Work MemoryRepository (Option Bytes) := do
  Work.modify fun r => { r with blobReads := r.blobReads + 1 }
  let r ← Work.get
  match r.failing.get? path.value, r.commits.get? id with
  | some fault, _ => Work.fail fault
  | none, none => Work.fail (.repository s!"missing object {id}")
  | none, some files => return (files.get? path.value).join

def takeVersion : List (Option Bytes) → Option Bytes × List (Option Bytes)
  | [] => (none, [])
  | [last] => (last, [last])
  | first :: rest => (first, rest)

def readWorktree (path : RepoPath) : Work MemoryRepository (Option Bytes) :=
  Work.change fun r =>
    let (bytes, rest) := takeVersion ((r.worktree.get? path.value).getD [])
    (bytes, { r with
      worktree := if rest.isEmpty then r.worktree else r.worktree.put path.value rest
      worktreeReads := r.worktreeReads + 1 })

/-- The store of a repository in memory, with a working directory. -/
def store (workingDir : String) : ObjectStore MemoryRepository :=
  ⟨identity, workingDir, MemoryRepository.links, resolveRef, readBlob, readWorktree⟩

end MemoryRepository

end ReviewDiff
