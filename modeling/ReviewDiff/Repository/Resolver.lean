import ReviewDiff.Repository.Content
import ReviewDiff.Repository.Store

/-!
# Sides of a comparison

A side is named by a ref or is the working tree. The identity of a file in the working tree is the
digest of its bytes under a mark of its own, so it changes whenever the file does; the content comes
from the same bytes. A commit is read only when its content is needed.
-/

set_option autoImplicit false

namespace ReviewDiff

/-- A path as a request names it. -/
inductive PathRequest where
  | ofUser (raw : Points)
  | known (path : RepoPath)
  deriving DecidableEq, Repr

structure Side where
  id : String
  content : Option Content
  deriving DecidableEq, Repr

namespace Side

def worktreeMark : String := "worktree:"

def worktreeId : Option Bytes → String
  | none => worktreeMark ++ "absent"
  | some bytes => worktreeMark ++ blobId bytes

def isWorktree (id : String) : Bool := worktreeMark.toList.isPrefixOf id.toList

end Side

namespace ObjectStore

variable {σ : Type} (store : ObjectStore σ)

def normalizePath : PathRequest → Work σ RepoPath
  | .known path => pure path
  | .ofUser raw => do
    let links := store.links (← Work.get)
    let path ← Work.ofExcept ((RepoPath.ofUser links raw store.workingDir).mapError .ofRefusal)
    Work.log (.repo .debug ("Normalized path " ++ raw ++ " -> " ++ path.value))
    return path

def contentRecords (path : RepoPath) (id : String) : Content → List LogRecord
  | .absent => [.repo .info (path.value ++ s!" is absent at {id}")]
  | .binary size _ => [.repo .info (path.value ++ s!" is binary at {id} ({size} bytes)")]
  | .present _ => []

def classify (path : RepoPath) (id : String) (bytes : Option Bytes) : Work σ Content := do
  let content := Content.classify bytes
  (contentRecords path id content).forM Work.log
  return content

def load (id : String) (path : RepoPath) : Work σ Content := do
  let bytes ← if Side.isWorktree id then store.readWorktree path else store.readBlob id path
  classify path id bytes

def resolveSide (ref : Option String) (path : RepoPath) : Work σ Side :=
  match ref with
  | some name => do return ⟨← store.resolveRef name, none⟩
  | none => do
    let bytes ← store.readWorktree path
    let id := Side.worktreeId bytes
    return ⟨id, some (← classify path id bytes)⟩

def contentOf (side : Side) (path : RepoPath) : Work σ Content :=
  match side.content with
  | some content => pure content
  | none => store.load side.id path

/-- The content of a file at a ref or in the working tree. -/
def resolve (ref : Option String) (request : PathRequest) : Work σ Content := do
  let path ← store.normalizePath request
  store.contentOf (← store.resolveSide ref path) path

end ObjectStore

end ReviewDiff
