import ReviewDiff.Proofs.Diff.Grid

/-!
# How far the frontiers reach

A move out of the grid is refused, so the frontier of a round need not hold the furthest point of
every diagonal. It falls short only where an earlier frontier met an edge of the grid, and from
there the far corner lies straight ahead along the edge. So every way through the grid is matched by
the frontiers or beaten by an arrival, and the search arrives after the least number of moves.
-/

set_option autoImplicit false

namespace ReviewDiff.Search

open Step

theorem choose_cases {left above : Option Nat} {k : Int} {n m x : Nat} {move : Move}
    (h : choose left above k n m = some (x, move)) :
    (move = .insert ∧ above = some x ∧ (x : Int) - k ≤ m) ∨
      (move = .delete ∧ ∃ x', left = some x' ∧ x' < n ∧ x = x'+1) := by
  have hinsert {x₁ : Nat}
      (hdown : (above.filter fun (x : Nat) => decide ((x : Int) - k ≤ m)) = some x₁)
      (heq : (x₁, Move.insert) = (x, move)) :
      move = .insert ∧ above = some x ∧ (x : Int) - k ≤ m := by
    obtain ⟨rfl, rfl⟩ := Prod.mk.inj heq
    exact ⟨rfl, by simpa [Option.filter_eq_some_iff] using hdown⟩
  have hdelete {x₁ : Nat}
      (hright : (left.filter fun (x : Nat) => decide (x < n)).map (· + 1) = some x₁)
      (heq : (x₁, Move.delete) = (x, move)) :
      move = .delete ∧ ∃ x', left = some x' ∧ x' < n ∧ x = x'+1 := by
    obtain ⟨rfl, rfl⟩ := Prod.mk.inj heq
    obtain ⟨x', hx', rfl⟩ := Option.map_eq_some_iff.mp hright
    exact ⟨rfl, x', by simpa [Option.filter_eq_some_iff] using hx'⟩
  simp only [choose] at h
  split at h
  · simp at h
  · exact .inl (hinsert ‹_› (Option.some.inj h))
  · exact .inr (hdelete ‹_› (Option.some.inj h))
  · split at h
    · exact .inl (hinsert ‹_› (Option.some.inj h))
    · exact .inr (hdelete ‹_› (Option.some.inj h))

theorem choose_above (left : Option Nat) {k : Int} (n : Nat) {m x : Nat} (hx : (x : Int) - k ≤ m) :
    ∃ x' move, choose left (some x) k n m = some (x', move) ∧ x ≤ x' := by
  have hdown : (some x).filter (fun (x : Nat) => decide ((x : Int) - k ≤ m)) = some x := by
    simpa using hx
  unfold choose
  simp only [hdown]
  cases (left.filter fun (x : Nat) => decide (x < n)).map (· + 1) with
  | none => exact ⟨x, .insert, rfl, by omega⟩
  | some x₁ =>
    by_cases hle : x₁ ≤ x
    · exact ⟨x, .insert, by simp [hle], by omega⟩
    · exact ⟨x₁, .delete, by simp [hle], by omega⟩

theorem choose_left (above : Option Nat) (k : Int) {n : Nat} (m : Nat) {x : Nat} (hx : x < n) :
    ∃ x' move, choose (some x) above k n m = some (x', move) ∧ x+1 ≤ x' := by
  have hright : ((some x).filter fun (x : Nat) => decide (x < n)).map (· + 1) = some (x+1) := by
    simpa using hx
  unfold choose
  simp only [hright]
  cases above.filter fun (x : Nat) => decide ((x : Int) - k ≤ m) with
  | none => exact ⟨x+1, .delete, rfl, by omega⟩
  | some x₁ =>
    by_cases hle : x+1 ≤ x₁
    · exact ⟨x₁, .insert, by simp [hle], by omega⟩
    · exact ⟨x+1, .delete, by simp [hle], by omega⟩

theorem row_cast {x : Nat} {k : Int} (h : k ≤ x) : (row x k : Int) = x - k := by
  unfold row
  omega

theorem onDiagonal_diagonal (f : Frontier) (d i : Nat) :
    f.onDiagonal d (diagonal d i) = (f[i]?).join := by
  have hsum : diagonal d i + d = 2 * i := by
    unfold diagonal
    omega
  have hcell : (2 * (i : Int)) % 2 = 0 ∧ 0 ≤ 2 * (i : Int) ∧ (2 * (i : Int) / 2).toNat = i := by
    omega
  simp only [Frontier.onDiagonal, hsum, hcell, decide_true, Bool.and_self, if_true]

theorem left_onDiagonal (f : Frontier) (d i : Nat) :
    f.left i = f.onDiagonal d (diagonal (d+1) i - 1) := by
  cases i with
  | zero =>
    have hsum : diagonal (d+1) 0 - 1 + d = -2 := by
      unfold diagonal
      omega
    simp [Frontier.left, Frontier.onDiagonal, hsum]
  | succ i =>
    have hk : diagonal (d+1) (i+1) - 1 = diagonal d i := by
      unfold diagonal
      omega
    rw [hk, onDiagonal_diagonal]
    simp [Frontier.left]

theorem above_onDiagonal (f : Frontier) (d i : Nat) :
    f.above i = f.onDiagonal d (diagonal (d+1) i + 1) := by
  have hk : diagonal (d+1) i + 1 = diagonal d i := by
    unfold diagonal
    omega
  rw [hk, onDiagonal_diagonal, Frontier.above]

variable {α : Type} [DecidableEq α]

def frontier (a b : Array α) : Nat → Frontier
  | 0 => start a b
  | d+1 => advance a b (d+1) (frontier a b d)

/-- The column that round `d` reaches on diagonal `k`. -/
def reached (a b : Array α) (d : Nat) (k : Int) : Option Nat :=
  (frontier a b d).onDiagonal d k

variable {a b : Array α} {d x y : Nat} {k : Int}

theorem frontier_size (a b : Array α) (d : Nat) : (frontier a b d).size = d+1 := by
  cases d with
  | zero => rfl
  | succ d => simp [frontier, advance]

theorem reached_diagonal (h : reached a b d k = some x) : ∃ i ≤ d, k = diagonal d i := by
  unfold reached Frontier.onDiagonal at h
  split at h
  · rename_i hk
    simp only [Bool.and_eq_true, decide_eq_true_eq] at hk
    rw [Option.join_eq_some_iff, Array.getElem?_eq_some_iff] at h
    obtain ⟨hi, -⟩ := h
    rw [frontier_size] at hi
    exact ⟨((k+d)/2).toNat, by omega, by unfold diagonal; omega⟩
  · simp at h

theorem reached_zero (h : reached a b 0 k = some x) : k = 0 ∧ x = slide a b 0 0 := by
  obtain ⟨i, hi, rfl⟩ := reached_diagonal h
  obtain rfl : i = 0 := by omega
  rw [reached, onDiagonal_diagonal] at h
  refine ⟨rfl, ?_⟩
  simpa [frontier, start] using h.symm

/-- One round: the better of the two moves into a diagonal, and then along equal symbols. -/
theorem reached_succ (a b : Array α) (d : Nat) (k : Int) :
    reached a b (d+1) k =
      (choose (reached a b d (k-1)) (reached a b d (k+1)) k a.size b.size).map
        fun (x, _) => slide a b x (row x k) := by
  by_cases hk : ∃ i ≤ d+1, k = diagonal (d+1) i
  · obtain ⟨i, hi, rfl⟩ := hk
    have hcell : i < d+1+1 := by omega
    rw [reached, onDiagonal_diagonal, frontier, advance]
    simp [hcell, left_onDiagonal _ d, above_onDiagonal _ d, reached]
  · -- Neither neighbour of such a diagonal is reached in the round before.
    have hleft : reached a b d (k-1) = none := by
      rw [Option.eq_none_iff_forall_ne_some]
      intro x hx
      obtain ⟨i, hi, hki⟩ := reached_diagonal hx
      exact hk ⟨i+1, by omega, by unfold diagonal at *; omega⟩
    have habove : reached a b d (k+1) = none := by
      rw [Option.eq_none_iff_forall_ne_some]
      intro x hx
      obtain ⟨i, hi, hki⟩ := reached_diagonal hx
      exact hk ⟨i, by omega, by unfold diagonal at *; omega⟩
    rw [hleft, habove, show choose none none k a.size b.size = none from rfl]
    rw [Option.map_none, Option.eq_none_iff_forall_ne_some]
    intro x hx
    exact hk (reached_diagonal hx)

theorem reached_inside (h : reached a b d k = some x) :
    k ≤ x ∧ x ≤ a.size ∧ (x : Int) - k ≤ b.size := by
  induction d generalizing k x with
  | zero =>
    obtain ⟨rfl, rfl⟩ := reached_zero h
    have := slide_inside a b (Nat.zero_le _) (Nat.zero_le _)
    omega
  | succ d ih =>
    rw [reached_succ] at h
    obtain ⟨⟨x', move⟩, hchoice, rfl⟩ := Option.map_eq_some_iff.mp h
    have hx' : k ≤ x' ∧ x' ≤ a.size ∧ (x' : Int) - k ≤ b.size := by
      rcases choose_cases hchoice with ⟨-, habove, hle⟩ | ⟨-, x₀, hleft, hlt, rfl⟩
      · have := ih habove
        omega
      · have := ih hleft
        omega
    have hrow := row_cast hx'.1
    have hslide := slide_inside a b hx'.2.1 (y := row x' k) (by omega)
    have hfar := le_slide a b x' (row x' k)
    simp only
    omega

theorem choose_reached {c : Nat × Move}
    (h : choose (reached a b d (k-1)) (reached a b d (k+1)) k a.size b.size = some c) : k ≤ c.1 := by
  rcases choose_cases h with ⟨-, habove, -⟩ | ⟨-, x₀, hleft, -, hx⟩
  · have := reached_inside habove
    omega
  · have := reached_inside hleft
    omega

theorem reached_stuck (h : reached a b d k = some x) : ¬ Same a b x (row x k) := by
  have hstuck (x' : Nat) (hk : k ≤ x') : ¬ Same a b (slide a b x' (row x' k))
      (row (slide a b x' (row x' k)) k) := by
    obtain ⟨s, hslide, -, hend⟩ := slide_spec a b x' (row x' k)
    have hrow : row (x'+s) k = row x' k + s := by
      unfold row
      omega
    rwa [hslide, hrow]
  cases d with
  | zero =>
    obtain ⟨rfl, rfl⟩ := reached_zero h
    exact hstuck 0 (by omega)
  | succ d =>
    rw [reached_succ] at h
    obtain ⟨⟨x', move⟩, hchoice, rfl⟩ := Option.map_eq_some_iff.mp h
    exact hstuck x' (choose_reached hchoice)

theorem reached_above (h : reached a b d (k+1) = some x) (hx : (x : Int) - k ≤ b.size) :
    ∃ x', reached a b (d+1) k = some x' ∧ x ≤ x' := by
  obtain ⟨x', move, hchoice, hle⟩ := choose_above (reached a b d (k-1)) a.size hx
  have hfar := le_slide a b x' (row x' k)
  exact ⟨slide a b x' (row x' k), by rw [reached_succ, h, hchoice]; rfl, by omega⟩

theorem reached_left (h : reached a b d (k-1) = some x) (hx : x < a.size) :
    ∃ x', reached a b (d+1) k = some x' ∧ x+1 ≤ x' := by
  obtain ⟨x', move, hchoice, hle⟩ := choose_left (reached a b d (k+1)) k b.size hx
  have hfar := le_slide a b x' (row x' k)
  exact ⟨slide a b x' (row x' k), by rw [reached_succ, h, hchoice]; rfl, by omega⟩

def goal (a b : Array α) : Int := (a.size : Int) - b.size

/-- The search arrives in round `d` or before. -/
def ArrivesBy (a b : Array α) (d : Nat) : Prop :=
  ∃ e ≤ d, reached a b e (goal a b) = some a.size

theorem arrivesBy_mono {d' : Nat} (h : ArrivesBy a b d) (hd : d ≤ d') : ArrivesBy a b d' := by
  obtain ⟨e, he, harrive⟩ := h
  exact ⟨e, by omega, harrive⟩

theorem right_edge (h : reached a b d k = some a.size) (s : Nat) (hs : k = goal a b + s) :
    ArrivesBy a b (d+s) := by
  induction s generalizing d k with
  | zero => exact ⟨d, by omega, by simpa [hs] using h⟩
  | succ s ih =>
    have hk : k = (k-1) + 1 := by omega
    rw [hk] at h
    obtain ⟨x', hx', hle⟩ := reached_above h (by unfold goal at hs; omega)
    have hx'' := reached_inside hx'
    obtain rfl : x' = a.size := by omega
    exact arrivesBy_mono (ih hx' (by omega)) (by omega)

theorem bottom_edge (h : reached a b d k = some x) (hx : (x : Int) - k = b.size) (s : Nat)
    (hs : goal a b = k + s) : ArrivesBy a b (d+s) := by
  induction s generalizing d k x with
  | zero =>
    have hcorner : x = a.size := by
      unfold goal at hs
      omega
    exact ⟨d, by omega, by simpa [hs, ← hcorner] using h⟩
  | succ s ih =>
    have hk : k = (k+1) - 1 := by omega
    rw [hk] at h
    obtain ⟨x', hx', hle⟩ := reached_left h (by unfold goal at hs; omega)
    have hx'' := reached_inside hx'
    exact arrivesBy_mono (ih hx' (by omega) (by omega)) (by omega)

/-- After `d` moves to the point `(x, y)` either the frontier is as far on the same diagonal, or the
search arrives no later than any way on from the point. -/
def Matched (a b : Array α) (d x y : Nat) : Prop :=
  (∃ x', reached a b d ((x : Int) - y) = some x' ∧ x ≤ x') ∨
    ArrivesBy a b (d + ((x : Int) - y - goal a b).natAbs)

theorem matched_start (a b : Array α) : Matched a b 0 0 0 := by
  refine .inl ⟨slide a b 0 0, ?_, Nat.zero_le _⟩
  rw [reached, show ((0 : Nat) : Int) - (0 : Nat) = diagonal 0 0 from rfl, onDiagonal_diagonal]
  simp [frontier, start]

theorem matched_keep (hs : Same a b x y) (h : Matched a b d x y) :
    Matched a b d (x+1) (y+1) := by
  have hk : ((x+1 : Nat) : Int) - (y+1 : Nat) = (x : Int) - y := by omega
  rw [Matched, hk]
  rcases h with ⟨x', hx', hle⟩ | harrive
  · refine .inl ⟨x', hx', ?_⟩
    by_contra hlt
    obtain rfl : x' = x := by omega
    have hrow : row x' ((x' : Int) - y) = y := by
      unfold row
      omega
    exact reached_stuck hx' (hrow.symm ▸ hs)
  · exact .inr harrive

theorem matched_delete (h : Matched a b d x y) : Matched a b (d+1) (x+1) y := by
  have hk : (x : Int) - y = ((x+1 : Nat) : Int) - y - 1 := by omega
  rw [Matched, hk] at h
  rcases h with ⟨x', hx', hle⟩ | harrive
  · have hin := reached_inside hx'
    by_cases hlt : x' < a.size
    · obtain ⟨x'', hx'', hle'⟩ := reached_left hx' hlt
      exact .inl ⟨x'', hx'', by omega⟩
    · -- The frontier met the right edge of the grid, where a deletion is refused.
      obtain rfl : x' = a.size := by omega
      have hgoal : goal a b ≤ ((x+1 : Nat) : Int) - y - 1 := by
        unfold goal
        omega
      exact .inr (arrivesBy_mono (right_edge hx' (((x+1 : Nat) : Int) - y - 1 - goal a b).toNat
        (by omega)) (by omega))
  · exact .inr (arrivesBy_mono harrive (by omega))

theorem matched_insert (h : Matched a b d x y) : Matched a b (d+1) x (y+1) := by
  have hk : (x : Int) - y = (x : Int) - (y+1 : Nat) + 1 := by omega
  rw [Matched, hk] at h
  rcases h with ⟨x', hx', hle⟩ | harrive
  · have hin := reached_inside hx'
    by_cases hlt : (x' : Int) - ((x : Int) - (y+1 : Nat)) ≤ b.size
    · obtain ⟨x'', hx'', hle'⟩ := reached_above hx' hlt
      exact .inl ⟨x'', hx'', by omega⟩
    · -- The frontier met the bottom edge of the grid, where an insertion is refused.
      have hgoal : (x : Int) - (y+1 : Nat) + 1 ≤ goal a b := by
        unfold goal
        omega
      exact .inr (arrivesBy_mono (bottom_edge hx' (by omega)
        (goal a b - ((x : Int) - (y+1 : Nat) + 1)).toNat (by omega)) (by omega))
  · exact .inr (arrivesBy_mono harrive (by omega))

theorem matched_run {steps : List Step} (h : Matched a b d x y) (hx : x ≤ a.size)
    (hy : y ≤ b.size) (hsteps : Finishes a b steps x y) :
    Matched a b (d + cost steps) a.size b.size := by
  induction steps generalizing d x y with
  | nil =>
    obtain ⟨hx', hy'⟩ := nil_finishes hsteps
    obtain rfl : x = a.size := by omega
    obtain rfl : y = b.size := by omega
    exact h
  | cons step steps ih =>
    cases step with
    | keep =>
      obtain ⟨hs, hrest⟩ := keep_finishes hsteps
      obtain ⟨hx', hy', -⟩ := id hs
      rw [cost_keep]
      exact ih (matched_keep hs h) (by omega) (by omega) hrest
    | delete =>
      obtain ⟨hx', hrest⟩ := delete_finishes hsteps
      rw [cost_delete, ← Nat.add_assoc, Nat.add_right_comm]
      exact ih (matched_delete h) (by omega) hy hrest
    | insert =>
      obtain ⟨hy', hrest⟩ := insert_finishes hsteps
      rw [cost_insert, ← Nat.add_assoc, Nat.add_right_comm]
      exact ih (matched_insert h) hx (by omega) hrest

theorem arrivesBy_cost {steps : List Step} (h : Edits steps a.toList b.toList) :
    ArrivesBy a b (cost steps) := by
  have hfinish : Finishes a b steps 0 0 := by simpa [Finishes] using h
  have hmatched := matched_run (matched_start a b) (Nat.zero_le _) (Nat.zero_le _) hfinish
  rw [Nat.zero_add] at hmatched
  rcases hmatched with ⟨x', hx', hle⟩ | harrive
  · have hin := reached_inside hx'
    obtain rfl : x' = a.size := by omega
    exact ⟨cost steps, Nat.le_refl _, hx'⟩
  · simpa [goal] using harrive

end ReviewDiff.Search
