/-!
# Similar texts

How alike two texts are: the longest piece that both hold is set aside, then the longest pieces that
the parts in front of it share, and the parts behind it. What is set aside counts.
-/

set_option autoImplicit false

namespace ReviewDiff.Text

def sharedFront : List Char → List Char → Nat
  | a :: as, b :: bs => if a = b then sharedFront as bs + 1 else 0
  | _, _ => 0

/-- A piece of two texts: where it starts in each, and its length. -/
structure Shared where
  left : Nat
  right : Nat
  length : Nat
  deriving DecidableEq, Repr

/-- The longest piece that starts at a place of the left text, the first of several. -/
def longestAt (left : Nat) (as bs : List Char) : Shared :=
  (List.range bs.length).foldl (fun best right =>
    let length := sharedFront as (bs.drop right)
    if best.length < length then ⟨left, right, length⟩ else best) ⟨left, 0, 0⟩

def longestShared (as bs : List Char) : Shared :=
  (List.range as.length).foldl (fun best left =>
    let found := longestAt left (as.drop left) bs
    if best.length < found.length then found else best) ⟨0, 0, 0⟩

def sharedCount : (fuel : Nat) → List Char → List Char → Nat
  | 0, _, _ => 0
  | fuel + 1, as, bs =>
    let piece := longestShared as bs
    if piece.length = 0 then 0
    else
      sharedCount fuel (as.take piece.left) (bs.take piece.right) + piece.length
        + sharedCount fuel (as.drop (piece.left + piece.length))
          (bs.drop (piece.right + piece.length))

def areSimilar (as bs : List Char) : Bool :=
  3 * (as.length + bs.length) ≤ 10 * sharedCount as.length as bs

def likeness (text other : String) : Nat × Nat :=
  let as := text.toList
  let bs := other.toList
  (2 * sharedCount as.length as bs, as.length + bs.length)

def maxSimilar : Nat := 3

def similar (word : String) (texts : List String) : List String :=
  let close := texts.filter fun t => areSimilar t.toList word.toList
  let before (a b : String) : Bool :=
    let (m, n) := likeness a word
    let (k, l) := likeness b word
    k * n < m * l || (k * n = m * l && b ≤ a)
  (close.mergeSort before).take maxSimilar

end ReviewDiff.Text
