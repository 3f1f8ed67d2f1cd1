import ReviewDiff.Diff.Mode
import ReviewDiff.Path.RepoPath
import ReviewDiff.Text.Blank

/-!
# Cache keys

All that shapes an output: the repository, the file, the two versions by their identities and never
by the names that led to them, the mode, and in hunk mode the context.
-/

set_option autoImplicit false

namespace ReviewDiff

structure CacheKey where
  repository : String
  path : RepoPath
  oldId : String
  newId : String
  mode : DiffMode
  contextLines : Option Int
  deriving DecidableEq, Repr

namespace CacheKey

def shownLength : Nat := 12

/-- The key in a log record. -/
def text (key : CacheKey) : Points :=
  key.path.value ++ (s!"@{Text.cut shownLength key.oldId}..{Text.cut shownLength key.newId}/"
    ++ key.mode.name)

end CacheKey

end ReviewDiff
