import ReviewDiff.Files.Tree
import ReviewDiff.Git.Repository
import ReviewDiff.Repository.Store
import ReviewDiff.Text.Blank

/-!
# The object store of a git repository

A failure of the library becomes a fault of this one: a name that stands for nothing is a ref that
was not found, all else that the library reports is a fault of the repository. When a repository is
opened only a missing repository is told so. The working tree is read from the files.
-/

set_option autoImplicit false

namespace ReviewDiff.Git

structure Store where
  repository : Repository
  workingDir : String

namespace Store

def «open» (library : Library) (path : String) : Except Fault Store :=
  match library path with
  | .ok repository =>
    match repository.workingDir with
    | some dir => .ok ⟨repository, String.ofList (Path.tidy dir.toList)⟩
    | none => .error (.repository s!"Repository at {path} is bare and has no working directory")
  | .error (.notRepository ..) | .error (.noSuchPath _) =>
    .error (.repository s!"Not a git repository: {path}")
  | .error e => .error e.pass

def refFault (name : String) : Failure → Fault
  | .foreign kind text => (Failure.foreign kind text).pass
  | .badName text => .refNotFound name (Failure.badName text).text
  | .badObject hex => .refNotFound name (Failure.badObject hex).text
  | .value _ text => .refNotFound name text
  | e => .repository s!"Failed to resolve {Text.quote name}: {e.text}"

def readFault (id : String) (path : RepoPath) : Failure → Fault
  | .foreign kind text => (Failure.foreign kind text).pass
  | e => .repository ("Failed to read " ++ path.value ++ s!" at {id}: {e.text}")

def resolveRef {σ : Type} (store : Store) (name : String) : Work σ String :=
  if Text.isBlankText name then Work.fail (.refNotFound name "empty ref")
  else match store.repository.commit name with
    | .error e => Work.fail (refFault name e)
    | .ok id => do
      Work.log (.repo .debug s!"Resolved {name} -> {id}")
      return id

/-- The bytes of a file in a commit; none for a directory or a submodule. -/
def blob? (store : Store) (id : String) (path : RepoPath) : Except Failure (Option Bytes) := do
  let commit ← store.repository.commit id
  match ← store.repository.entry commit path.value with
  | some (.file bytes) => some <$> bytes
  | _ => return none

def readBlob {σ : Type} (store : Store) (id : String) (path : RepoPath) :
    Work σ (Option Bytes) :=
  Work.ofExcept ((store.blob? id path).mapError (readFault id path))

def worktreePath (store : Store) (path : RepoPath) : Points := Path.child store.workingDir path.value

def fileName? (place : Points) : Option String :=
  if (Path.unreadable? place).isSome then none else place.text?

def readWorktree (store : Store) (path : RepoPath) : Work FileTree (Option Bytes) := do
  match fileName? (store.worktreePath path) with
  | none => return none
  | some place =>
    let files ← Work.get
    if ← Work.ofExcept ((files.isFile place).mapError .file) then
      match files.read place with
      | .ok bytes => return some bytes
      | .error e => Work.fail (.repository s!"Failed to read {place}: {e.message}")
    else return none

/-- The object store over a state that holds the files of the working tree. -/
def objects (store : Store) : ObjectStore FileTree :=
  ⟨String.ofList (Path.absolute store.repository.gitDir.toList), store.workingDir,
    fun _ => Path.noLinks, store.resolveRef, store.readBlob, store.readWorktree⟩

end Store

end ReviewDiff.Git
