import ReviewDiff.Json.Shown
import ReviewDiff.Path.Links

/-!
# Paths in a repository

A path relative to the root of a repository: components joined by slashes, none of them empty, `.`
or `..`. A path from a user may be relative to the root or absolute below the working directory; an
absolute path is compared with the working directory as it is written and then with all links
followed. The links are followed in any case, so an absolute path that the file system cannot be
asked about is never accepted.
-/

set_option autoImplicit false

namespace ReviewDiff

open PathChar

inductive PathFault where
  | empty
  | absolute
  | notNormalized
  | root
  | escapes
  | outside (workingDir : Points)
  deriving DecidableEq, Repr

def PathFault.reason : PathFault → Points
  | .empty => "path is empty"
  | .absolute => "path must be relative to the repository root"
  | .notNormalized => "path must be normalized"
  | .root => "path names the repository root, not a file"
  | .escapes => "path escapes the working directory"
  | .outside workingDir => "path is outside the working directory " ++ workingDir

structure InvalidPath where
  path : Points
  fault : PathFault
  deriving DecidableEq, Repr

def InvalidPath.message (e : InvalidPath) : Points :=
  s!"Invalid path {Text.quote e.path}: " ++ e.fault.reason

inductive PathRefusal where
  | invalid (e : InvalidPath)
  | unreadable (e : Path.Unreadable)
  deriving DecidableEq, Repr

namespace RepoPath

def check (value : Points) : Option PathFault :=
  if value.isEmpty then some .empty
  else if Path.isAbsolute value then some .absolute
  else if (Path.components value).any fun c => Path.isEmptyStep c || Path.isParent c then
    some .notNormalized
  else none

end RepoPath

structure RepoPath where
  value : Points
  valid : RepoPath.check value = none
  deriving DecidableEq, Repr

namespace RepoPath

def ofPoints (value : Points) : Except InvalidPath RepoPath :=
  match h : check value with
  | some fault => .error ⟨value, fault⟩
  | none => .ok ⟨value, h⟩

def ofJson : Json → Except InvalidPath RepoPath
  | .str value => ofPoints value
  | other => .error ⟨other.shown, .empty⟩

def name (path : RepoPath) : Points := (Path.components path.value).getLast?.getD []

def behind? (path directory : Points) : Option Points :=
  let root := Path.trimEnd directory
  let root := if root.isEmpty then [slash] else root
  if path = root then some []
  else
    let front := Path.withSlash root
    if front.isPrefixOf path then some (path.drop front.length) else none

/-- What is left of an absolute path behind the working directory, as written or with all links
followed. -/
def behindWorkingDir? (links : Path.Links) (path workingDir : Points) :
    Except Path.Unreadable (Option Points) := do
  let (place, root) ← Path.reals links path workingDir
  match behind? path workingDir with
  | some rest => return some rest
  | none => return behind? place root

def ofNormal (raw normal : Points) : Except InvalidPath RepoPath :=
  if normal = [dot] then .error ⟨raw, .root⟩
  else if normal = [dot, dot] || [dot, dot, slash].isPrefixOf normal then .error ⟨raw, .escapes⟩
  else ofPoints (Path.trimStart normal)

/-- The repository path of a user's path, relative to the root or absolute. -/
def ofUser (links : Path.Links) (raw workingDir : Points) : Except PathRefusal RepoPath :=
  if raw.isEmpty then .error (.invalid ⟨raw, .empty⟩)
  else if Path.isAbsolute raw then
    match behindWorkingDir? links raw workingDir with
    | .error e => .error (.unreadable e)
    | .ok none => .error (.invalid ⟨raw, .outside workingDir⟩)
    | .ok (some rest) => (ofNormal raw (Path.normalize rest)).mapError .invalid
  else (ofNormal raw (Path.normalize raw)).mapError .invalid

end RepoPath

end ReviewDiff
