import ReviewDiff.Diff.InPlace
import ReviewDiff.Proofs.Diff.WayBack

/-!
# One array holds all frontiers

The diagonals of a round lie between those of the round before, so a round reads only cells that it
does not write. At every moment of a search the cells beside the diagonals of the round hold the
frontier of the round before, the cells already written hold that of the round, and the cells
further out still hold -1. Hence the search in one array visits the same points as the search with a
frontier for each round, and a window holds all that its round has read.
-/

set_option autoImplicit false

namespace ReviewDiff.InPlace

open Search (Move diagonal reached goal frontier)

/-- A column as a cell holds it. -/
def encode : Option Nat → Int
  | none => -1
  | some x => x

theorem cell_put_self {v next : Cells} {i x : Int} (h : put v i x = .ok next) :
    cell next i = .ok x := by
  rw [put] at h
  split at h
  · next hi =>
    cases h
    simp [cell, hi]
  · cases h

theorem cell_put_ne {v next : Cells} {i j x : Int} (h : put v i x = .ok next) (hne : j ≠ i) :
    cell next j = cell v j := by
  rw [put] at h
  split at h
  · next hi =>
    cases h
    by_cases hj : 0 ≤ j ∧ j.toNat < v.size
    · have : i.toNat ≠ j.toNat := by omega
      simp [cell, hj, Array.getElem_setIfInBounds_ne, this]
    · simp [cell, hj]
  · cases h

theorem size_put {v next : Cells} {i x : Int} (h : put v i x = .ok next) : next.size = v.size := by
  rw [put] at h
  split at h
  · cases h
    simp
  · cases h

theorem put_inside {v : Cells} {i : Int} (x : Int) (h0 : 0 ≤ i) (h : i < v.size) :
    ∃ next, put v i x = .ok next := ⟨_, by rw [put, if_pos ⟨h0, by omega⟩]⟩

theorem encode_above (above : Option Nat) (k : Int) (m : Nat) :
    (if 0 ≤ encode above ∧ encode above - k ≤ m then encode above else -1) =
      encode (above.filter fun (x : Nat) => decide ((x : Int) - k ≤ m)) := by
  cases above with
  | none => rfl
  | some x => by_cases h : (x : Int) - k ≤ m <;> simp [encode, Option.filter, h]

theorem encode_left (left : Option Nat) (n : Nat) :
    (if 0 ≤ encode left ∧ encode left < n then encode left + 1 else -1) =
      encode ((left.filter fun (x : Nat) => decide (x < n)).map (· + 1)) := by
  cases left with
  | none => rfl
  | some x => by_cases h : x < n <;> simp [encode, Option.filter, h]

theorem choose_encode (left above : Option Nat) (k : Int) (n m : Nat) :
    choose (encode left) (encode above) k n m =
      (Search.choose left above k n m).map fun c => ((c.1 : Int), c.2) := by
  simp only [choose, Search.choose, encode_above, encode_left]
  cases above.filter fun (x : Nat) => decide ((x : Int) - k ≤ m) with
  | none =>
    cases (left.filter fun (x : Nat) => decide (x < n)).map (· + 1) with
    | none => rfl
    | some x =>
      have hx : ¬ (x : Int) < 0 := by omega
      have hle : ¬ (x : Int) ≤ -1 := by omega
      simp [encode, hx, hle]
  | some x =>
    cases (left.filter fun (x : Nat) => decide (x < n)).map (· + 1) with
    | none =>
      have hx : ¬ (x : Int) < 0 := by omega
      have hle : (-1 : Int) ≤ x := by omega
      simp [encode, hx, hle]
    | some x' =>
      have hx : ¬ (x : Int) < 0 := by omega
      by_cases hle : x' ≤ x <;> simp [encode, hx, hle]

theorem choiceAt_encode {v : Cells} {i k : Int} {left above : Option Nat} (n m : Nat)
    (hleft : cell v (i - 1) = .ok (encode left)) (habove : cell v (i + 1) = .ok (encode above)) :
    choiceAt v i k n m =
      .ok ((Search.choose left above k n m).map fun c => ((c.1 : Int), c.2)) := by
  rw [choiceAt, hleft, habove, ← choose_encode]
  rfl

variable {α : Type} {a b : Array α} {d i : Nat} {k : Int} {v next : Cells}

theorem cell_window (hsize : v.size = 2 * (a.size + b.size) + 3) (hd : d ≤ a.size + b.size)
    (hk : k.natAbs ≤ d + 1) : cell (window a b d v) (k + d + 1) = cell v (offset a b + k) := by
  have hin : 0 ≤ offset a b + k ∧ (offset a b + k).toNat < v.size := by
    unfold offset
    omega
  have hshift : (offset a b - d - 1).toNat + (k + d + 1).toNat = (offset a b + k).toNat := by
    unfold offset
    omega
  have hwindow : 0 ≤ k + d + 1 ∧ (k + d + 1).toNat < (window a b d v).size := by
    simp only [window, Array.size_extract, offset]
    omega
  rw [cell, cell, dif_pos hwindow, dif_pos hin]
  simp only [window, Array.getElem_extract, hshift]

variable [DecidableEq α]

theorem reached_beyond (a b : Array α) (h : d < k.natAbs) : reached a b d k = none := by
  rw [Option.eq_none_iff_forall_ne_some]
  intro x hx
  obtain ⟨i, hi, rfl⟩ := Search.reached_diagonal hx
  unfold diagonal at h
  omega

def found (a b : Array α) : Nat → Int → Option Nat
  | 0, _ => none
  | d + 1, k => reached a b d k

structure Stands (a b : Array α) (d i : Nat) (v : Cells) : Prop where
  size : v.size = 2 * (a.size + b.size) + 3
  beside : ∀ k : Int, k.natAbs ≤ a.size + b.size + 1 → (k + d) % 2 = 1 →
    cell v (offset a b + k) = .ok (encode (found a b d k))
  written : ∀ k : Int, k.natAbs ≤ a.size + b.size + 1 → (k + d) % 2 = 0 → k < diagonal d i →
    cell v (offset a b + k) = .ok (encode (reached a b d k))
  beyond : ∀ k : Int, k.natAbs ≤ a.size + b.size + 1 → d < k.natAbs →
    cell v (offset a b + k) = .ok (-1)

theorem blank_stands (a b : Array α) : Stands a b 0 0 (blank a b) := by
  have hcell (k : Int) (hk : k.natAbs ≤ a.size + b.size + 1) :
      cell (blank a b) (offset a b + k) = .ok (-1) := by
    have hin : 0 ≤ offset a b + k ∧ (offset a b + k).toNat < 2 * (a.size + b.size) + 3 := by
      unfold offset
      omega
    simp [cell, blank, hin]
  refine ⟨by simp [blank], fun k hk _ => hcell k hk, fun k hk _ hlt => ?_, fun k hk _ => hcell k hk⟩
  rw [hcell k hk, reached_beyond a b (by unfold diagonal at hlt; omega)]
  rfl

theorem Stands.round (h : Stands a b d (d + 1) v) : Stands a b (d + 1) 0 v where
  size := h.size
  beside k hk hodd := by
    by_cases hlt : k < diagonal d (d + 1)
    · exact h.written k hk (by omega) hlt
    · have hfar : d < k.natAbs := by
        unfold diagonal at hlt
        omega
      rw [h.beyond k hk hfar, found, reached_beyond a b hfar]
      rfl
  written k hk _ hlt := by
    have hfar : d + 1 < k.natAbs := by
      unfold diagonal at hlt
      omega
    rw [h.beyond k hk (by omega), reached_beyond a b hfar]
    rfl
  beyond k hk hfar := h.beyond k hk (by omega)

theorem follow_slide (a b : Array α) {x : Nat} (h : k ≤ x) :
    follow a b x k = .ok (Search.slide a b x (Search.row x k)) := by
  rw [follow, if_neg (by omega), if_neg (by omega)]
  rfl

theorem Stands.choice (h : Stands a b (d + 1) i v) (hi : i ≤ d + 1) (hd : d < a.size + b.size) :
    choiceAt v (offset a b + diagonal (d + 1) i) (diagonal (d + 1) i) a.size b.size =
      .ok ((Search.choose (reached a b d (diagonal (d + 1) i - 1))
        (reached a b d (diagonal (d + 1) i + 1)) (diagonal (d + 1) i) a.size b.size).map
          fun c => ((c.1 : Int), c.2)) := by
  apply choiceAt_encode
  · rw [Int.add_sub_assoc]
    exact h.beside _ (by unfold diagonal; omega) (by unfold diagonal; omega)
  · rw [Int.add_assoc]
    exact h.beside _ (by unfold diagonal; omega) (by unfold diagonal; omega)

theorem Stands.land (h : Stands a b d i v) (hi : i ≤ d) (hd : d ≤ a.size + b.size) :
    land a b d (diagonal d i) v = .ok (encode (reached a b d (diagonal d i))) := by
  cases d with
  | zero =>
    obtain rfl : i = 0 := by omega
    rw [InPlace.land, if_pos rfl, Search.reached, Search.onDiagonal_diagonal]
    exact follow_slide a b (x := 0) (by unfold diagonal; omega)
  | succ d =>
    rw [InPlace.land, if_neg (by omega), h.choice hi (by omega), Search.reached_succ]
    cases hchoice : Search.choose (reached a b d (diagonal (d + 1) i - 1))
        (reached a b d (diagonal (d + 1) i + 1)) (diagonal (d + 1) i) a.size b.size with
    | none => rfl
    | some c => exact follow_slide a b (Search.choose_reached hchoice)

theorem Stands.put (h : Stands a b d i v) (hi : i ≤ d) (hd : d ≤ a.size + b.size) :
    ∃ next, put v (offset a b + diagonal d i) (encode (reached a b d (diagonal d i))) = .ok next ∧
      Stands a b d (i + 1) next := by
  have hk : (diagonal d i).natAbs ≤ d := by
    unfold diagonal
    omega
  obtain ⟨next, hput⟩ := put_inside (v := v) (i := offset a b + diagonal d i)
    (encode (reached a b d (diagonal d i))) (by unfold offset; omega)
    (by rw [h.size]; unfold offset; omega)
  have hkeep (k : Int) (hne : k ≠ diagonal d i) :
      cell next (offset a b + k) = cell v (offset a b + k) := cell_put_ne hput (by omega)
  refine ⟨next, hput, by rw [size_put hput, h.size], fun k hin hodd => ?_, fun k hin heven hlt => ?_,
    fun k hin hfar => ?_⟩
  · rw [hkeep k (by rintro rfl; unfold diagonal at hodd; omega)]
    exact h.beside k hin hodd
  · by_cases heq : k = diagonal d i
    · rw [heq]
      exact cell_put_self hput
    · rw [hkeep k heq]
      exact h.written k hin heven (by unfold diagonal at *; omega)
  · rw [hkeep k (by rintro rfl; omega)]
    exact h.beyond k hin hfar

theorem encode_arrives (a b : Array α) (d : Nat) (k : Int) :
    (encode (reached a b d k) = a.size ∧ encode (reached a b d k) - k = b.size) ↔
      k = goal a b ∧ reached a b d (goal a b) = some a.size := by
  unfold goal
  constructor
  · rintro ⟨hcolumn, hrow⟩
    obtain rfl : k = (a.size : Int) - b.size := by omega
    refine ⟨rfl, ?_⟩
    cases hreached : reached a b d ((a.size : Int) - b.size) with
    | none =>
      rw [hreached] at hcolumn
      simp only [encode] at hcolumn
      omega
    | some x =>
      rw [hreached] at hcolumn
      simp only [encode] at hcolumn
      rw [Int.ofNat.inj hcolumn]
  · rintro ⟨rfl, hreached⟩
    rw [hreached]
    exact ⟨rfl, by simp only [encode]; omega⟩

theorem Stands.visit (h : Stands a b d i v) (hi : i ≤ d) (hd : d ≤ a.size + b.size) :
    ∃ next, visit a b d (diagonal d i) v =
        .ok (decide (diagonal d i = goal a b ∧ reached a b d (goal a b) = some a.size), next) ∧
      Stands a b d (i + 1) next := by
  obtain ⟨next, hput, hnext⟩ := h.put hi hd
  refine ⟨next, ?_, hnext⟩
  have harrives : decide (diagonal d i = goal a b ∧ reached a b d (goal a b) = some a.size) =
      (decide (encode (reached a b d (diagonal d i)) = a.size) &&
        decide (encode (reached a b d (diagonal d i)) - diagonal d i = b.size)) := by
    rw [← Bool.decide_and]
    exact decide_eq_decide.mpr (encode_arrives a b d _).symm
  rw [InPlace.visit, h.land hi hd, harrives]
  change (InPlace.put _ _ _ >>= _) = _
  rw [hput]
  rfl

/-- With the given cells the search comes to diagonal number `i` of round `d`. -/
inductive Visits (a b : Array α) : (d i : Nat) → Cells → Prop
  | start : Visits a b 0 0 (blank a b)
  | next {d i : Nat} {v next : Cells} (h : Visits a b d i v) (hi : i < d)
      (hvisit : visit a b d (diagonal d i) v = .ok (false, next)) : Visits a b d (i + 1) next
  | round {d : Nat} {v next : Cells} (h : Visits a b d d v) (hd : d < a.size + b.size)
      (hvisit : visit a b d (diagonal d d) v = .ok (false, next)) : Visits a b (d + 1) 0 next

theorem Visits.stands (h : Visits a b d i v) : i ≤ d ∧ d ≤ a.size + b.size ∧ Stands a b d i v := by
  induction h with
  | start => exact ⟨Nat.le_refl _, Nat.zero_le _, blank_stands a b⟩
  | next h hi hvisit ih =>
    obtain ⟨-, hd, hstands⟩ := ih
    obtain ⟨next, hnext, hstands'⟩ := hstands.visit (Nat.le_of_lt hi) hd
    obtain ⟨-, rfl⟩ := Prod.mk.inj (Except.ok.inj (hnext.symm.trans hvisit))
    exact ⟨hi, hd, hstands'⟩
  | round h hd hvisit ih =>
    obtain ⟨-, -, hstands⟩ := ih
    obtain ⟨next, hnext, hstands'⟩ := hstands.visit (Nat.le_refl _) (Nat.le_of_lt hd)
    obtain ⟨-, rfl⟩ := Prod.mk.inj (Except.ok.inj (hnext.symm.trans hvisit))
    exact ⟨Nat.zero_le _, hd, hstands'.round⟩

/-- Before it comes somewhere the search has come to all diagonals of the rounds before, and to those
on the left in the same round. -/
theorem Visits.before (h : Visits a b d i v) {d' i' : Nat} (hi' : i' ≤ d')
    (hbefore : d' < d ∨ d' = d ∧ i' ≤ i) : ∃ v', Visits a b d' i' v' := by
  induction h with
  | start =>
    obtain rfl : d' = 0 := by omega
    obtain rfl : i' = 0 := by omega
    exact ⟨_, .start⟩
  | @next d i _ _ h hi hvisit ih =>
    by_cases hlast : d' = d ∧ i' = i + 1
    · obtain ⟨rfl, rfl⟩ := hlast
      exact ⟨_, .next h hi hvisit⟩
    · exact ih (by omega)
  | @round d _ _ h hd hvisit ih =>
    by_cases hlast : d' = d + 1
    · obtain rfl : i' = 0 := by omega
      rw [hlast]
      exact ⟨_, .round h hd hvisit⟩
    · exact ih (by omega)

def diagonalsFrom (d i : Nat) : List Int := (List.range' i (d + 1 - i)).map (diagonal d)

theorem diagonalsFrom_zero (d : Nat) : diagonalsFrom d 0 = diagonals d := by
  rw [diagonalsFrom, diagonals, List.range_eq_range']
  rfl

theorem diagonalsFrom_cons (h : i ≤ d) :
    diagonalsFrom d i = diagonal d i :: diagonalsFrom d (i + 1) := by
  rw [diagonalsFrom, show d + 1 - i = d + 1 - (i + 1) + 1 by omega, List.range'_succ, List.map_cons]
  rfl

theorem diagonalsFrom_nil (d : Nat) : diagonalsFrom d (d + 1) = [] := by
  simp [diagonalsFrom]

theorem Visits.sweep_round (h : Visits a b d i v) (hd : d < a.size + b.size)
    (hnot : reached a b d (goal a b) ≠ some a.size) :
    ∃ next, sweep a b d (diagonalsFrom d i) v = .ok (false, next) ∧ Visits a b (d + 1) 0 next := by
  obtain ⟨c, hc⟩ : ∃ c, i + c = d := ⟨d - i, by have := h.stands.1; omega⟩
  induction c generalizing i v with
  | zero =>
    obtain rfl : i = d := by omega
    obtain ⟨hi, hd', hstands⟩ := h.stands
    obtain ⟨next, hvisit, -⟩ := hstands.visit hi hd'
    simp only [hnot, and_false, decide_false] at hvisit
    refine ⟨next, ?_, .round h hd hvisit⟩
    rw [diagonalsFrom_cons hi, diagonalsFrom_nil, sweep, hvisit]
    rfl
  | succ c ih =>
    obtain ⟨hi, hd', hstands⟩ := h.stands
    obtain ⟨next, hvisit, -⟩ := hstands.visit hi hd'
    simp only [hnot, and_false, decide_false] at hvisit
    obtain ⟨last, hsweep, hlast⟩ := ih (.next h (by omega) hvisit) (by omega)
    refine ⟨last, ?_, hlast⟩
    rw [diagonalsFrom_cons hi, sweep, hvisit]
    exact hsweep

theorem Visits.sweep_arrives (h : Visits a b d i v) {j : Nat} (hij : i ≤ j) (hj : j ≤ d)
    (hgoal : diagonal d j = goal a b) (harrives : reached a b d (goal a b) = some a.size) :
    (∃ next, sweep a b d (diagonalsFrom d i) v = .ok (true, next)) ∧
      ∃ v', Visits a b d j v' := by
  obtain ⟨c, hc⟩ : ∃ c, i + c = j := ⟨j - i, by omega⟩
  induction c generalizing i v with
  | zero =>
    obtain rfl : i = j := by omega
    obtain ⟨hi, hd, hstands⟩ := h.stands
    obtain ⟨next, hvisit, -⟩ := hstands.visit hi hd
    simp only [hgoal, harrives, and_self, decide_true] at hvisit
    refine ⟨⟨next, ?_⟩, v, h⟩
    rw [diagonalsFrom_cons hi, hgoal, sweep, hvisit]
    rfl
  | succ c ih =>
    obtain ⟨hi, hd, hstands⟩ := h.stands
    obtain ⟨next, hvisit, -⟩ := hstands.visit hi hd
    have hother : diagonal d i ≠ goal a b := by
      unfold diagonal at *
      omega
    simp only [hother, false_and, decide_false] at hvisit
    obtain ⟨⟨last, hsweep⟩, hvisits⟩ := ih (.next h (by omega) hvisit) (by omega) (by omega)
    refine ⟨⟨last, ?_⟩, hvisits⟩
    rw [diagonalsFrom_cons hi, sweep, hvisit]
    exact hsweep

/-- Windows of the first rounds of the search, as many as the number says, the latest first. -/
inductive Recorded (a b : Array α) : Nat → List Cells → Prop
  | none : Recorded a b 0 []
  | round {d : Nat} {v : Cells} {windows : List Cells} (before : Recorded a b d windows)
      (h : Visits a b d 0 v) : Recorded a b (d + 1) (window a b d v :: windows)

theorem Recorded.length {windows : List Cells} (h : Recorded a b d windows) :
    windows.length = d := by
  induction h with
  | none => rfl
  | round _ _ ih => rw [List.length_cons, ih]

theorem search_recorded {e : Nat} (harrives : reached a b e (goal a b) = some a.size)
    (hfirst : ∀ d < e, reached a b d (goal a b) ≠ some a.size) (hmost : e ≤ a.size + b.size)
    (rounds : Nat) {before : List Cells} (h : Visits a b d 0 v) (hbefore : Recorded a b d before)
    (hd : d ≤ e) (hrounds : e < d + rounds) :
    ∃ windows, search a b rounds d v before = .ok windows ∧ Recorded a b (e + 1) windows ∧
      ∃ j v', goal a b = diagonal e j ∧ Visits a b e j v' := by
  induction rounds generalizing d v before with
  | zero => omega
  | succ rounds ih =>
    rw [search, ← diagonalsFrom_zero]
    by_cases hde : d = e
    · subst d
      obtain ⟨j, hj, hgoal⟩ := Search.reached_diagonal harrives
      obtain ⟨⟨next, hsweep⟩, v', hvisits⟩ :=
        h.sweep_arrives (Nat.zero_le j) hj hgoal.symm harrives
      rw [hsweep]
      exact ⟨_, rfl, hbefore.round h, j, v', hgoal, hvisits⟩
    · obtain ⟨next, hsweep, hnext⟩ := h.sweep_round (by omega) (hfirst d (by omega))
      rw [hsweep]
      exact ih hnext (hbefore.round h) (by omega) (by omega)

end ReviewDiff.InPlace
