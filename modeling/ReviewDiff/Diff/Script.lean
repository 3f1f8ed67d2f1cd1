import ReviewDiff.Diff.Search
import ReviewDiff.Diff.Symbols

/-!
# The script between two files

The common start and the common end of two sequences are kept, and what is left between them is
edited in the fewest steps. Only the equality of lines matters, so numbers are compared in their
place. Among the shortest edits the choice is fixed by the search, so equal inputs always give the
same script.
-/

set_option autoImplicit false

namespace ReviewDiff

def commonStart {α : Type} [DecidableEq α] : List α → List α → Nat
  | a :: as, b :: bs => if a = b then commonStart as bs + 1 else 0
  | _, _ => 0

def commonEnd {α : Type} [DecidableEq α] (old new : List α) : Nat :=
  commonStart old.reverse new.reverse

def editSteps? {α : Type} [DecidableEq α] (old new : List α) : Option (List Step) :=
  let opening := commonStart old new
  let oldRest := old.drop opening
  let newRest := new.drop opening
  let closing := commonEnd oldRest newRest
  let oldMiddle := oldRest.take (oldRest.length - closing)
  let newMiddle := newRest.take (newRest.length - closing)
  (Search.steps? oldMiddle.toArray newMiddle.toArray).map fun middle =>
    List.replicate opening .keep ++ middle ++ List.replicate closing .keep

def editScript? {α : Type} [DecidableEq α] (old new : List α) : Option Script :=
  let (oldNumbers, known) := Symbols.internAll [] old
  let (newNumbers, _) := known.internAll new
  (editSteps? oldNumbers newNumbers).map Script.ofSteps

/-- The edit script from the old sequence to the new one. The search always arrives, so that the
empty script never stands in for it. -/
def editScript {α : Type} [DecidableEq α] (old new : List α) : Script :=
  (editScript? old new).getD []

def compareLines (old new : List Comparand) : Script :=
  editScript (Comparand.texts old) (Comparand.texts new)

end ReviewDiff
