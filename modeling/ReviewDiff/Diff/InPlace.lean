import ReviewDiff.Diff.Search

/-!
# The search in one array

The search for a shortest edit with one array for all of its rounds. The cell of a diagonal holds
the furthest column reached on it, -1 while there is none. A round overwrites the cells of its own
diagonals, and before it does so it puts them and the cells beside them aside. The way back reads
nothing but these windows.

Cells are read and written by checked positions, so whatever goes wrong shows as a slip.
-/

set_option autoImplicit false

namespace ReviewDiff.InPlace

open Search (Move)

abbrev Cells := Array Int

inductive Slip where
  | outside (i : Int)
  | stuck
  | endless
  deriving DecidableEq, Repr

def cell (v : Cells) (i : Int) : Except Slip Int :=
  if h : 0 ≤ i ∧ i.toNat < v.size then .ok v[i.toNat] else .error (.outside i)

def put (v : Cells) (i x : Int) : Except Slip Cells :=
  if 0 ≤ i ∧ i.toNat < v.size then .ok (v.setIfInBounds i.toNat x) else .error (.outside i)

/-- The better move into diagonal `k` of a grid of `n` columns and `m` rows, with the column it
leads to. Insertion wins a tie; none when both moves would leave the grid. -/
def choose (left above k : Int) (n m : Nat) : Option (Int × Move) :=
  let down := if 0 ≤ above ∧ above - k ≤ m then above else -1
  let right := if 0 ≤ left ∧ left < n then left + 1 else -1
  if down < 0 ∧ right < 0 then none
  else if right ≤ down then some (down, .insert)
  else some (right, .delete)

def choiceAt (v : Cells) (i k : Int) (n m : Nat) : Except Slip (Option (Int × Move)) := do
  let left ← cell v (i - 1)
  let above ← cell v (i + 1)
  return choose left above k n m

section

variable {α : Type}

def offset (a b : Array α) : Int := a.size + b.size + 1

def blank (a b : Array α) : Cells := Array.replicate (2 * (a.size + b.size) + 3) (-1)

def window (a b : Array α) (d : Nat) (v : Cells) : Cells :=
  v.extract (offset a b - d - 1).toNat (offset a b + d + 2).toNat

variable [DecidableEq α]

def follow (a b : Array α) (x k : Int) : Except Slip Int :=
  if x < 0 then .error (.outside x)
  else if x - k < 0 then .error (.outside (x - k))
  else .ok (Search.slide a b x.toNat (x - k).toNat)

def land (a b : Array α) (d : Nat) (k : Int) (v : Cells) : Except Slip Int :=
  if d = 0 then follow a b 0 k
  else do
    match ← choiceAt v (offset a b + k) k a.size b.size with
    | none => return -1
    | some (x, _) => follow a b x k

/-- One diagonal of round `d`: whether the far corner is reached on it, and the cells afterwards. -/
def visit (a b : Array α) (d : Nat) (k : Int) (v : Cells) : Except Slip (Bool × Cells) := do
  let x ← land a b d k v
  let next ← put v (offset a b + k) x
  return (x = a.size && x - k = b.size, next)

def sweep (a b : Array α) (d : Nat) : List Int → Cells → Except Slip (Bool × Cells)
  | [], v => .ok (false, v)
  | k :: rest, v => do
    let (arrived, next) ← visit a b d k v
    if arrived then return (true, next) else sweep a b d rest next

def diagonals (d : Nat) : List Int := (List.range (d + 1)).map (Search.diagonal d)

def search (a b : Array α) : (rounds d : Nat) → Cells → List Cells → Except Slip (List Cells)
  | 0, _, _, _ => .error .endless
  | rounds + 1, d, v, before => do
    let windows := window a b d v :: before
    let (arrived, next) ← sweep a b d (diagonals d) v
    if arrived then return windows else search a b rounds (d + 1) next windows

/-- The windows of a search. There are never more moves than symbols. -/
def windows (a b : Array α) : Except Slip (List Cells) :=
  search a b (a.size + b.size + 1) 0 (blank a b) []

end

/-- What a round did on a diagonal: a move, the column that it leads to and the one that equal symbols
lead to from there. -/
structure Turn where
  round : Nat
  diagonal : Int
  start : Int
  finish : Int
  move : Move
  deriving DecidableEq, Repr

def Turn.steps (t : Turn) : List Step :=
  t.move.step :: List.replicate (t.finish - t.start).toNat .keep

structure Way where
  x : Int
  y : Int
  turns : List Turn
  deriving DecidableEq, Repr

def Way.steps (w : Way) : List Step :=
  List.replicate w.x.toNat .keep ++ w.turns.flatMap Turn.steps

def walkBack (n m : Nat) : List Cells → (x y : Int) → List Turn → Except Slip Way
  | [], x, y, turns | [_], x, y, turns => .ok ⟨x, y, turns⟩
  | w :: w' :: before, x, y, turns => do
    let d := before.length + 1
    let k := x - y
    match ← choiceAt w (k + d + 1) k n m with
    | none => .error .stuck
    | some (start, .insert) =>
      walkBack n m (w' :: before) start (start - k - 1) (⟨d, k, start, x, .insert⟩ :: turns)
    | some (start, .delete) =>
      walkBack n m (w' :: before) (start - 1) (start - k) (⟨d, k, start, x, .delete⟩ :: turns)

def shortestEdit {α : Type} [DecidableEq α] (a b : Array α) : Except Slip (List Step) :=
  if a.size = 0 then .ok (List.replicate b.size .insert)
  else if b.size = 0 then .ok (List.replicate a.size .delete)
  else do
    let way ← walkBack a.size b.size (← windows a b) a.size b.size []
    return way.steps

end ReviewDiff.InPlace
