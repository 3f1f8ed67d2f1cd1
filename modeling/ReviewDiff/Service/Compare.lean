import ReviewDiff.Cache.Desk
import ReviewDiff.Diff.Script
import ReviewDiff.Repository.Resolver
import ReviewDiff.Service.FileDiff

/-!
# Comparing two versions of a file

Names are resolved to identities before the cache is asked, so a name that moves never brings up old
output. The working tree is read once for a request. Content that is not text is not compared line
by line; in hunk mode a marker says that two such contents differ.
-/

set_option autoImplicit false

namespace ReviewDiff

/-- Answers requests for diffs in one repository. -/
structure DiffService (σ : Type) where
  store : ObjectStore σ
  settings : DiffSettings
  cached : Bool

structure DiffRequest where
  mode : DiffMode
  path : PathRequest
  oldRef : String
  newRef : Option String
  contextLines : Option Int
  deriving DecidableEq, Repr

def binaryMarker (path : RepoPath) : DiffLine :=
  .header ("Binary files a/" ++ path.value ++ " and b/" ++ path.value ++ " differ")

def textDiff (mode : DiffMode) (context : Int) (old new : List Points) :
    Except Fault (List DiffLine) :=
  let script := editScript old new
  match mode with
  | .hunk => ((Hunk.ofScript old new script context).mapError .hunks).map Hunk.output
  | .complete => (completeLines old new script).mapError fun e => .hunks (.position e)

namespace DiffService

variable {σ : Type} (service : DiffService σ)

def compare (mode : DiffMode) (path : RepoPath) (context : Int) (old new : Content) :
    Work σ (List DiffLine) :=
  if old.isBinary || new.isBinary then
    return if mode = .hunk && old ≠ new then [binaryMarker path] else []
  else do
    let lines ← Work.ofExcept (textDiff mode context old.texts new.texts)
    Work.log (.diff .debug (s!"Computed {lines.length} {mode.name} lines for " ++ path.value))
    return lines

def compute (mode : DiffMode) (path : RepoPath) (context : Int) (old new : Side) :
    Work σ (List DiffLine) := do
  let oldContent ← service.store.contentOf old path
  let newContent ← service.store.contentOf new path
  compare mode path context oldContent newContent

def newLabel : Option String → String
  | some name => if name.isEmpty then "working tree" else name
  | none => "working tree"

def sides (request : DiffRequest) (path : RepoPath) : Work σ (Side × Side) := do
  let old ← service.store.resolveSide (some request.oldRef) path
  let new ← service.store.resolveSide request.newRef path
  Work.log (.diff .info
    (s!"{request.mode.name} diff of " ++ path.value ++ (s!": {request.oldRef} ({old.id}) -> "
      ++ s!"{newLabel request.newRef} ({new.id})")))
  return (old, new)

def keyOf (request : DiffRequest) (path : RepoPath) (old new : Side) : CacheKey :=
  ⟨service.store.identity, path, old.id, new.id, request.mode, request.contextLines⟩

def diff (request : DiffRequest) : Work (Desk σ) FileDiff := do
  let path ← Desk.lift (service.store.normalizePath request.path)
  let (old, new) ← Desk.lift (service.sides request path)
  let compute : Work (Desk σ) (List DiffLine) :=
    Desk.lift (service.compute request.mode path (request.contextLines.getD 0) old new)
  let lines ←
    if service.cached then DiffCache.getOrCompute (service.keyOf request path old new) compute
    else compute
  return ⟨path, request.mode, request.oldRef, request.newRef, old.id, new.id, lines⟩

def nameOr (missing : String) : Option String → String
  | some name => if name.isEmpty then missing else name
  | none => missing

/-- The diff in hunk mode. Without an old ref the settings name one; without a new ref the new side
is the working tree. -/
def fileDiff (path : PathRequest) (oldRef newRef : Option String) (context : Option Int) :
    Work (Desk σ) FileDiff :=
  let context := context.getD service.settings.contextLines
  if context < 0 then Work.fail (.hunks (.negativeContext context))
  else
    service.diff ⟨.hunk, path, nameOr service.settings.defaultOldRef oldRef, newRef, some context⟩

def completeDiff (path : PathRequest) (oldRef newRef : Option String) : Work (Desk σ) FileDiff :=
  match nameOr "" oldRef, nameOr "" newRef with
  | old, new =>
    if old.isEmpty || new.isEmpty then Work.fail .oneSided
    else service.diff ⟨.complete, path, old, some new, none⟩

end DiffService

end ReviewDiff
