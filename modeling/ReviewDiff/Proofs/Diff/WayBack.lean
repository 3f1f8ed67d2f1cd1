import Mathlib.Data.Nat.Find
import ReviewDiff.Proofs.Diff.Frontier

/-!
# The way back from the far corner

The search hands over the frontiers of the rounds before its arrival. On each of them the choice of
the round is made again, with the same cells and so with the same outcome, and it names the move
that led to the point. A way back from round `d` therefore takes back exactly `d` moves.
-/

set_option autoImplicit false

namespace ReviewDiff.Search

open Step

variable {α : Type} {a b : Array α}

theorem keeps_back {x' x y : Nat} {k : Int} (hk : k ≤ x') (hx : x' ≤ x) (hy : (x : Int) - y = k)
    (hs : ∀ t < x-x', Same a b (x'+t) (row x' k + t)) {after : List Step}
    (h : Finishes a b after x y) :
    Finishes a b (List.replicate (x-x') .keep ++ after) x' (row x' k) := by
  have hrow := row_cast hk
  refine finishes_keeps hs ?_
  rwa [show x' + (x-x') = x by omega, show row x' k + (x-x') = y by omega]

variable [DecidableEq α]

def earlier (a b : Array α) : Nat → List Frontier
  | 0 => []
  | d+1 => frontier a b d :: earlier a b d

theorem earlier_length (a b : Array α) (d : Nat) : (earlier a b d).length = d := by
  induction d with
  | zero => rfl
  | succ d ih => simp [earlier, ih]

theorem arrives_iff (a b : Array α) (d : Nat) :
    arrives a b d (frontier a b d) = true ↔ reached a b d (goal a b) = some a.size := by
  simp [arrives, reached, goal]

theorem search_first {e : Nat} (harrive : reached a b e (goal a b) = some a.size)
    (hfirst : ∀ d < e, reached a b d (goal a b) ≠ some a.size) (fuel d : Nat) (hd : d ≤ e)
    (hfuel : e ≤ d + fuel) :
    search a b fuel d (frontier a b d) (earlier a b d) = some (earlier a b e) := by
  induction fuel generalizing d with
  | zero =>
    obtain rfl : d = e := by omega
    rw [search, if_pos ((arrives_iff a b d).mpr harrive)]
  | succ fuel ih =>
    rw [search]
    by_cases hde : d = e
    · subst d
      rw [if_pos ((arrives_iff a b e).mpr harrive)]
    · rw [if_neg (fun h => hfirst d (by omega) ((arrives_iff a b d).mp h))]
      exact ih (d+1) (by omega) (by omega)

theorem trace_first (a b : Array α) :
    ∃ e, trace a b = some (earlier a b e) ∧ reached a b e (goal a b) = some a.size ∧
      ∀ d, ArrivesBy a b d → e ≤ d := by
  have hall := arrivesBy_cost (edits_replace a.toList b.toList)
  rw [cost_append, cost_replicate, cost_replicate] at hall
  obtain ⟨d, hd, harrive⟩ := hall
  have hex : ∃ e, reached a b e (goal a b) = some a.size := ⟨d, harrive⟩
  have hleast (d : Nat) (h : ArrivesBy a b d) : Nat.find hex ≤ d := by
    obtain ⟨e, he, h⟩ := h
    exact Nat.le_trans (Nat.find_min' hex h) he
  refine ⟨Nat.find hex, ?_, Nat.find_spec hex, hleast⟩
  have hle := hleast d ⟨d, Nat.le_refl _, harrive⟩
  simp only [Array.length_toList, reduceCtorEq, if_false] at hd
  exact search_first (Nat.find_spec hex) (fun d hd => Nat.find_min hex hd) _ 0 (Nat.zero_le _)
    (by omega)

theorem reached_move {d x : Nat} {k : Int} (h : reached a b (d+1) k = some x) :
    ∃ x' move, choose (reached a b d (k-1)) (reached a b d (k+1)) k a.size b.size =
        some (x', move) ∧ k ≤ x' ∧ x' ≤ x ∧
      ∀ t < x-x', Same a b (x'+t) (row x' k + t) := by
  rw [reached_succ] at h
  obtain ⟨⟨x', move⟩, hchoice, hx⟩ := Option.map_eq_some_iff.mp h
  obtain rfl : slide a b x' (row x' k) = x := hx
  have hk : k ≤ x' := choose_reached hchoice
  obtain ⟨s, hslide, hsame, -⟩ := slide_spec a b x' (row x' k)
  refine ⟨x', move, hchoice, hk, by omega, fun t ht => hsame t (by omega)⟩

/-- The last move into the point `(x, y)` of round `d + 1`: it leads from the point `(px, py)` of the
round before to column `x'`, and from there equal symbols lead to the point. -/
structure LastMove (a b : Array α) (d x y x' : Nat) (move : Move) (px py : Nat) : Prop where
  choice : choose (reached a b d ((x : Int) - y - 1)) (reached a b d ((x : Int) - y + 1))
    ((x : Int) - y) a.size b.size = some (x', move)
  start : reached a b d ((px : Int) - py) = some px
  crosses : move = .insert ∧ px = x' ∧ (py : Int) = x' - ((x : Int) - y) - 1 ∨
    move = .delete ∧ px + 1 = x' ∧ (py : Int) = x' - ((x : Int) - y)
  column : ((x : Int) - y) ≤ x' ∧ x' ≤ x
  keeps : ∀ t < x-x', Same a b (x'+t) (row x' ((x : Int) - y) + t)

theorem reached_lastMove {d x y : Nat} (h : reached a b (d+1) ((x : Int) - y) = some x) :
    ∃ x' move px py, LastMove a b d x y x' move px py := by
  obtain ⟨x', move, hchoice, hk, hx, hs⟩ := reached_move h
  rcases choose_cases hchoice with ⟨rfl, habove, -⟩ | ⟨rfl, x₀, hleft, -, rfl⟩
  · have hrow := row_cast (reached_inside habove).1
    refine ⟨x', .insert, x', row x' ((x : Int) - y + 1), hchoice, ?_, .inl ⟨rfl, rfl, by omega⟩,
      ⟨hk, hx⟩, hs⟩
    rw [hrow, show (x' : Int) - (x' - ((x : Int) - y + 1)) = (x : Int) - y + 1 by omega]
    exact habove
  · have hrow := row_cast hk
    refine ⟨x₀+1, .delete, x₀, row (x₀+1) ((x : Int) - y), hchoice, ?_, .inr ⟨rfl, rfl, hrow⟩,
      ⟨hk, hx⟩, hs⟩
    rw [hrow, show (x₀ : Int) - ((x₀+1 : Nat) - ((x : Int) - y)) = (x : Int) - y - 1 by omega]
    exact hleft

namespace LastMove

variable {d x y x' px py : Nat} {move : Move}

theorem walkBack_eq (h : LastMove a b d x y x' move px py)
    (hreached : reached a b (d+1) ((x : Int) - y) = some x) (after : List Step) :
    walkBack a.size b.size (earlier a b (d+1)) x y after =
      walkBack a.size b.size (earlier a b d) px py
        (move.step :: List.replicate (x-x') .keep ++ after) := by
  obtain ⟨i, -, hi⟩ := reached_diagonal hreached
  have hcell : (((x : Int) - y + ((earlier a b d).length + 1 : Nat)) / 2).toNat = i := by
    rw [earlier_length, hi]
    unfold diagonal
    omega
  have hread : choose ((frontier a b d).left i) ((frontier a b d).above i) ((x : Int) - y)
      a.size b.size = some (x', move) := by
    rw [left_onDiagonal _ d, above_onDiagonal _ d, ← hi]
    exact h.choice
  rw [earlier, walkBack]
  simp only [hcell, hread]
  rcases h.crosses with ⟨rfl, rfl, hpy⟩ | ⟨rfl, rfl, hpy⟩
  · rw [show py = row px ((x : Int) - y + 1) by unfold row; omega]
    rfl
  · rw [show py = row (px+1) ((x : Int) - y) by unfold row; omega]
    rfl

theorem finishes (h : LastMove a b d x y x' move px py) {after : List Step}
    (hafter : Finishes a b after x y) :
    Finishes a b (move.step :: List.replicate (x-x') .keep ++ after) px py := by
  have hback := keeps_back h.column.1 h.column.2 rfl h.keeps hafter
  have hrow := row_cast h.column.1
  rcases h.crosses with ⟨rfl, rfl, hpy⟩ | ⟨rfl, rfl, hpy⟩
  · obtain ⟨-, -, hle⟩ | ⟨hmove, -⟩ := choose_cases h.choice
    · rw [show row px ((x : Int) - y) = py+1 by omega] at hback
      exact finishes_insert (by omega) hback
    · cases hmove
  · obtain ⟨hmove, -⟩ | ⟨-, x₀, -, hlt, hx₀⟩ := choose_cases h.choice
    · cases hmove
    · rw [show row (px+1) ((x : Int) - y) = py by omega] at hback
      exact finishes_delete (by omega) hback

end LastMove

/-- From a point of the frontier of round `d` the way back always leads to the start, and takes back
`d` moves. -/
theorem walkBack_finishes {d x y : Nat} (h : reached a b d ((x : Int) - y) = some x)
    {after : List Step} (hafter : Finishes a b after x y) :
    ∃ steps, walkBack a.size b.size (earlier a b d) x y after = some steps ∧
      Finishes a b steps 0 0 ∧ cost steps = d + cost after := by
  induction d generalizing x y after with
  | zero =>
    obtain ⟨hk, hx⟩ := reached_zero h
    obtain ⟨s, hslide, hsame, -⟩ := slide_spec a b 0 0
    obtain rfl : x = s := by omega
    obtain rfl : y = x := by omega
    refine ⟨List.replicate y .keep ++ after, rfl, ?_, by simp⟩
    exact finishes_keeps hsame (by simpa using hafter)
  | succ d ih =>
    obtain ⟨x', move, px, py, hlast⟩ := reached_lastMove h
    obtain ⟨steps, hsteps, hfinish, hsum⟩ := ih hlast.start (hlast.finishes hafter)
    refine ⟨steps, by rw [hlast.walkBack_eq h, hsteps], hfinish, ?_⟩
    rw [hsum]
    cases move <;> simp [Move.step] <;> omega

theorem steps_cheapest (a b : Array α) :
    ∃ steps, steps? a b = some steps ∧ Edits steps a.toList b.toList ∧
      ∀ other, Edits other a.toList b.toList → cost steps ≤ cost other := by
  obtain ⟨e, htrace, harrive, hleast⟩ := trace_first a b
  obtain ⟨steps, hsteps, hfinish, hcost⟩ := walkBack_finishes harrive finishes_corner
  refine ⟨steps, by rw [steps?, htrace, Option.bind_some, hsteps], ?_, fun other h => ?_⟩
  · simpa [Finishes] using hfinish
  · have := hleast _ (arrivesBy_cost h)
    rw [cost_nil] at hcost
    omega

end ReviewDiff.Search
