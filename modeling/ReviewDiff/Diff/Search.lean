import ReviewDiff.Diff.Edit

/-!
# The search for a shortest edit

A path through the grid of two sequences goes right past a deleted symbol, down past an inserted one
and diagonally along equal ones. Round `d` of the search finds, for every diagonal that `d` moves
can reach, how far along it they lead: the frontier of the round. The round whose frontier holds the
far corner gives the least number of moves, and the recorded frontiers lead back to the start. Moves
that would leave the grid are never taken, so the way back can repeat each choice of the search.
-/

set_option autoImplicit false

namespace ReviewDiff.Search

inductive Move where
  | delete
  | insert
  deriving DecidableEq, Repr

def Move.step : Move → Step
  | .delete => .delete
  | .insert => .insert

/-- The furthest column reached on every second diagonal: the cell `i` of the frontier of round `d`
belongs to the diagonal `2 * i - d`. -/
abbrev Frontier := Array (Option Nat)

def diagonal (d i : Nat) : Int := 2 * i - d

def Frontier.onDiagonal (f : Frontier) (d : Nat) (k : Int) : Option Nat :=
  if (k + d) % 2 = 0 && 0 ≤ k + d then (f[((k + d) / 2).toNat]?).join else none

def Frontier.left (f : Frontier) (i : Nat) : Option Nat :=
  if i = 0 then none else (f[i - 1]?).join

def Frontier.above (f : Frontier) (i : Nat) : Option Nat := (f[i]?).join

/-- The better move into diagonal `k` of a grid of `n` columns and `m` rows, with the column it
leads to. Insertion wins a tie; none when both moves would leave the grid. -/
def choose (left above : Option Nat) (k : Int) (n m : Nat) : Option (Nat × Move) :=
  let down := above.filter fun (x : Nat) => decide ((x : Int) - k ≤ m)
  let right := (left.filter fun (x : Nat) => decide (x < n)).map (· + 1)
  match down, right with
  | none, none => none
  | some x, none => some (x, .insert)
  | none, some x => some (x, .delete)
  | some x, some x' => if x' ≤ x then some (x, .insert) else some (x', .delete)

section

variable {α : Type} [DecidableEq α]

def slide (a b : Array α) (x y : Nat) : Nat :=
  if hx : x < a.size then
    if hy : y < b.size then
      if a[x] = b[y] then slide a b (x + 1) (y + 1) else x
    else x
  else x
termination_by a.size - x

def row (x : Nat) (k : Int) : Nat := ((x : Int) - k).toNat

def advance (a b : Array α) (d : Nat) (f : Frontier) : Frontier :=
  ((List.range (d + 1)).map fun i =>
    let k := diagonal d i
    (choose (f.left i) (f.above i) k a.size b.size).map fun (x, _) =>
      slide a b x (row x k)).toArray

/-- The frontier before any move. -/
def start (a b : Array α) : Frontier := #[some (slide a b 0 0)]

def arrives (a b : Array α) (d : Nat) (f : Frontier) : Bool :=
  f.onDiagonal d ((a.size : Int) - b.size) == some a.size

def search (a b : Array α) : (fuel : Nat) → (d : Nat) → Frontier → List Frontier →
    Option (List Frontier)
  | 0, d, f, before => if arrives a b d f then some before else none
  | fuel + 1, d, f, before =>
    if arrives a b d f then some before
    else search a b fuel (d + 1) (advance a b (d + 1) f) (f :: before)

def trace (a b : Array α) : Option (List Frontier) :=
  search a b (a.size + b.size) 0 (start a b) []

end

def walkBack (n m : Nat) : List Frontier → (x y : Nat) → List Step → Option (List Step)
  | [], x, _, after => some (List.replicate x .keep ++ after)
  | f :: before, x, y, after =>
    let k : Int := (x : Int) - y
    let i := ((k + (before.length + 1 : Nat)) / 2).toNat
    match choose (f.left i) (f.above i) k n m with
    | none => none
    | some (x', .insert) =>
      walkBack n m before x' (row x' (k + 1)) (.insert :: List.replicate (x - x') .keep ++ after)
    | some (x', .delete) =>
      walkBack n m before (x' - 1) (row x' k) (.delete :: List.replicate (x - x') .keep ++ after)

/-- The steps of a shortest edit, if the search arrives. -/
def steps? {α : Type} [DecidableEq α] (a b : Array α) : Option (List Step) :=
  (trace a b).bind fun frontiers => walkBack a.size b.size frontiers a.size b.size []

end ReviewDiff.Search
