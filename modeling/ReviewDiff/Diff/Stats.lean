import ReviewDiff.Diff.Line

/-!
# Counts of a diff

How many lines were added and removed and how many hunks there are, read off the output alone. A
header that does not start like a hunk marks a change that is not shown line by line.
-/

set_option autoImplicit false

namespace ReviewDiff

structure DiffStats where
  added : Nat
  removed : Nat
  hunks : Nat
  identical : Bool
  deriving DecidableEq, Repr

namespace DiffStats

def isHunkHeader (content : Points) : Bool := (Points.ofString "@@").isPrefixOf content

def isMarker (line : DiffLine) : Bool := line.kind = .header && !isHunkHeader line.content

def ofLines (lines : List DiffLine) : DiffStats :=
  let added := lines.countP fun line => line.kind = .added
  let removed := lines.countP fun line => line.kind = .removed
  let hunks := lines.countP fun line => line.kind = .header && isHunkHeader line.content
  ⟨added, removed, hunks, added = 0 && removed = 0 && !lines.any isMarker⟩

def toJson (stats : DiffStats) : Json :=
  .obj [("lines_added", .int stats.added), ("lines_removed", .int stats.removed),
    ("total_hunks", .int stats.hunks), ("is_identical", .bool stats.identical)]

end DiffStats

/-- What a line costs in memory besides the bytes of its text. -/
def lineOverhead : Nat := 64

def estimateSize : List DiffLine → Except Unencodable Nat
  | [] => .ok 0
  | line :: rest => do
    let size ← line.content.size
    return size + lineOverhead + (← estimateSize rest)

end ReviewDiff
