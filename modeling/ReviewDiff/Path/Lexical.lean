import ReviewDiff.Data.Assoc
import ReviewDiff.Text.Points

/-!
# Paths as text

Components are the pieces between slashes. A path is brought into normal form without looking at the
file system: empty components and `.` are dropped and `..` takes back the component before it. Paths
are read in characters and in code points alike.
-/

set_option autoImplicit false

namespace ReviewDiff

/-- What paths are written in: one element stands between components, one names the place itself. -/
class PathChar (α : Type) where
  slash : α
  dot : α
  dot_ne_slash : dot ≠ slash

instance : PathChar Char := ⟨'/', '.', by decide⟩

instance : PathChar CodePoint := ⟨'/', '.', by decide⟩

namespace Path

open PathChar

abbrev Component (α : Type) := List α

variable {α : Type} [DecidableEq α] [PathChar α]

def components (path : List α) : List (Component α) := path.splitOn slash

/-- Components with a slash between each two of them. -/
def join (parts : List (Component α)) : List α := List.intercalate [slash] parts

def isEmptyStep (c : Component α) : Bool := c.isEmpty || c = [dot]

def isParent (c : Component α) : Bool := c = [dot, dot]

def isAbsolute (path : List α) : Bool := path.head? = some slash

def rootSlashes (path : List α) : Nat :=
  match (path.takeWhile (· = slash)).length with
  | 0 => 0
  | 2 => 2
  | _ => 1

/-- The components kept after one more, the last one first. A `..` that has nothing to take back
stays in a relative path and is dropped at the root. -/
def step (absolute : Bool) (kept : List (Component α)) (c : Component α) : List (Component α) :=
  if isEmptyStep c then kept
  else if isParent c then
    match kept with
    | [] => if absolute then [] else [c]
    | last :: before => if isParent last then c :: kept else before
  else c :: kept

def normalComponents (path : List α) : List (Component α) :=
  ((components path).foldl (step (isAbsolute path)) []).reverse

/-- The normal form of a path; a path that comes to nothing is `.`. -/
def normalize (path : List α) : List α :=
  let body := List.replicate (rootSlashes path) slash ++ join (normalComponents path)
  if body.isEmpty then [dot] else body

def absolute (path : List α) : List α := slash :: join (normalComponents path)

def parent (path : List α) : List α := slash :: join (normalComponents path).dropLast

def trimEnd (path : List α) : List α := (path.reverse.dropWhile (· = slash)).reverse

def trimStart (path : List α) : List α := path.dropWhile (· = slash)

def tidy (path : List α) : List α :=
  let parts := (components path).filter fun c => !isEmptyStep c
  let body := List.replicate (rootSlashes path) slash ++ join parts
  if body.isEmpty then [dot] else body

def withSlash (directory : List α) : List α :=
  if directory.getLast? = some slash then directory else directory ++ [slash]

def under (directory path : List α) : List α :=
  if isAbsolute path then tidy path else tidy (withSlash directory ++ path)

def child (directory : List α) (name : List α) : List α :=
  tidy (withSlash directory ++ name)

def followedBy (front rest : List α) : List α :=
  if isAbsolute rest then rest else withSlash front ++ rest

end Path

end ReviewDiff
