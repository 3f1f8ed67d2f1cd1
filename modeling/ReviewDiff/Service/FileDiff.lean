import ReviewDiff.Diff.Mode
import ReviewDiff.Diff.Stats
import ReviewDiff.Path.RepoPath

/-!
# The diff of a file

The output together with where it comes from. Without a new ref the new side is the working tree.
-/

set_option autoImplicit false

namespace ReviewDiff

structure FileDiff where
  path : RepoPath
  mode : DiffMode
  oldRef : String
  newRef : Option String
  oldId : String
  newId : String
  lines : List DiffLine
  deriving DecidableEq, Repr

namespace FileDiff

def stats (d : FileDiff) : DiffStats := .ofLines d.lines

/-- The document of a diff. -/
def toJson (d : FileDiff) : Json :=
  .obj [("path", .str d.path.value.shown), ("mode", .str d.mode.name), ("old_ref", .str d.oldRef),
    ("new_ref", d.newRef.elim .null .str), ("old_id", .str d.oldId), ("new_id", .str d.newId),
    ("stats", d.stats.toJson), ("lines", .arr (d.lines.map (·.toJson)))]

end FileDiff

end ReviewDiff
