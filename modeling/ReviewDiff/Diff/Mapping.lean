import ReviewDiff.Diff.Line

/-!
# Line numbers across a diff

Read off the complete output: which line of the new file each kept line of the old one became, and
for a removed line the line that now stands in its place. Also the part of an output around a line.
-/

set_option autoImplicit false

namespace ReviewDiff

structure LineMapping where
  oldToNew : Assoc Int Int
  newToOld : Assoc Int Int
  /-- The new line after a removed one, or the last new line; none when there is no new line. -/
  removedAnchor : Assoc Int (Option Int)
  deriving DecidableEq, Repr

namespace LineMapping

def empty : LineMapping := ⟨[], [], []⟩

def anchor (mapping : LineMapping) (removed : List Int) (new : Option Int) : LineMapping :=
  { mapping with
    removedAnchor := removed.foldl (fun anchors old => Assoc.put anchors old new)
      mapping.removedAnchor }

def keep (mapping : LineMapping) (old new : Int) : LineMapping :=
  { mapping with
    oldToNew := Assoc.put mapping.oldToNew old new
    newToOld := Assoc.put mapping.newToOld new old }

def extend (mapping : LineMapping) (pending : List Int) (lastNew : Option Int) :
    List DiffLine → LineMapping
  | [] => mapping.anchor pending lastNew
  | .removed _ old :: rest => extend mapping (pending ++ [old]) lastNew rest
  | .header _ :: rest => extend mapping pending lastNew rest
  | .added _ new :: rest => extend (mapping.anchor pending (some new)) [] (some new) rest
  | .context _ old new :: rest =>
    extend ((mapping.anchor pending (some new)).keep old new) [] (some new) rest

/-- The mapping of a complete output. -/
def ofLines (lines : List DiffLine) : LineMapping := extend empty [] none lines

def findNew (mapping : LineMapping) (old : Int) : Option Int :=
  match mapping.oldToNew.get? old with
  | some new => some new
  | none => (mapping.removedAnchor.get? old).join

end LineMapping

/-- The items from `start` up to `stop`; a negative stop counts from the end. -/
def slice {α : Type} (items : List α) (start : Nat) (stop : Int) : List α :=
  let limit := if stop < 0 then stop + items.length else stop
  (items.take limit.toNat).drop start

def contextAround (lines : List DiffLine) (number : Option Int) (radius : Int) : List DiffLine :=
  match lines.findIdx? fun line => line.newNumber? = number with
  | none => []
  | some index => slice lines ((index : Int) - radius).toNat (index + radius + 1)

end ReviewDiff
