import ReviewDiff.Proofs.Diff.InPlace

/-!
# The way back repeats the search

The way back reads each window at the diagonal that it stands on and chooses again. The cells are
those that the round has read, so the choice is the one that the round has made, and taking the move
back leads to a point of the round before. So the way back never fails, takes back one move for each
round, and ends on diagonal 0. What it gives are the steps of the search with a frontier for each
round.
-/

set_option autoImplicit false

namespace ReviewDiff.InPlace

open Step (Edits cost edits_replace edits_nil_left edits_nil_right)
open Search (Move Finishes diagonal reached goal earlier)

section

variable {α : Type} [DecidableEq α]

def replay (a b : Array α) : List Step → (x y : Nat) → Option (Nat × Nat)
  | [], x, y => some (x, y)
  | .keep :: steps, x, y =>
    if h : x < a.size ∧ y < b.size then
      if a[x] = b[y] then replay a b steps (x + 1) (y + 1) else none
    else none
  | .delete :: steps, x, y => if x < a.size then replay a b steps (x + 1) y else none
  | .insert :: steps, x, y => if y < b.size then replay a b steps x (y + 1) else none

theorem replay_finishes {a b : Array α} {steps : List Step} {x y : Nat} (hx : x ≤ a.size)
    (hy : y ≤ b.size) (h : Finishes a b steps x y) :
    replay a b steps x y = some (a.size, b.size) := by
  induction steps generalizing x y with
  | nil =>
    have hend := Search.nil_finishes h
    rw [replay, Nat.le_antisymm hx hend.1, Nat.le_antisymm hy hend.2]
  | cons step steps ih =>
    cases step with
    | keep =>
      obtain ⟨⟨hx', hy', hsame⟩, hrest⟩ := Search.keep_finishes h
      rw [replay, dif_pos ⟨hx', hy'⟩, if_pos hsame]
      exact ih hx' hy' hrest
    | delete =>
      obtain ⟨hx', hrest⟩ := Search.delete_finishes h
      rw [replay, if_pos hx']
      exact ih hx' hy hrest
    | insert =>
      obtain ⟨hy', hrest⟩ := Search.insert_finishes h
      rw [replay, if_pos hy']
      exact ih hx hy' hrest

end

variable {α : Type} [DecidableEq α] {a b : Array α} {d i x y : Nat} {k : Int} {v : Cells}
  {ws : List Cells}

theorem choiceAt_window (h : Visits a b (d + 1) 0 v) (hi : i ≤ d + 1) (hk : k = diagonal (d + 1) i) :
    choiceAt (window a b (d + 1) v) (k + (d + 1 : Nat) + 1) k a.size b.size =
      .ok ((Search.choose (reached a b d (k - 1)) (reached a b d (k + 1)) k a.size b.size).map
        fun c => ((c.1 : Int), c.2)) := by
  obtain ⟨-, hd, hstands⟩ := h.stands
  have hk' : k.natAbs ≤ d + 1 ∧ (k + (d + 1 : Nat)) % 2 = 0 := by
    unfold diagonal at hk
    omega
  apply choiceAt_encode
  · rw [show k + (d + 1 : Nat) + 1 - 1 = k - 1 + (d + 1 : Nat) + 1 by omega,
      cell_window hstands.size hd (by omega)]
    exact hstands.beside (k - 1) (by omega) (by omega)
  · rw [show k + (d + 1 : Nat) + 1 + 1 = k + 1 + (d + 1 : Nat) + 1 by omega,
      cell_window hstands.size hd (by omega)]
    exact hstands.beside (k + 1) (by omega) (by omega)

structure Repeats (a b : Array α) (t : Turn) : Prop where
  visited : ∃ i v, t.diagonal = diagonal t.round i ∧ Visits a b t.round i v
  choice : ∀ i v, t.diagonal = diagonal t.round i → Visits a b t.round i v →
    choiceAt v (offset a b + t.diagonal) t.diagonal a.size b.size = .ok (some (t.start, t.move))
  finish : ∀ i v, t.diagonal = diagonal t.round i → Visits a b t.round i v →
    land a b t.round t.diagonal v = .ok t.finish

theorem repeats_reached {x' : Nat} {move : Move} (hvisited : ∃ i v, k = diagonal (d + 1) i ∧
      Visits a b (d + 1) i v)
    (hchoice : Search.choose (reached a b d (k - 1)) (reached a b d (k + 1)) k a.size b.size =
      some (x', move))
    (hreached : reached a b (d + 1) k = some x) :
    Repeats a b ⟨d + 1, k, x', x, move⟩ where
  visited := hvisited
  choice i v hk h := by
    obtain ⟨hi, hd, hstands⟩ := h.stands
    dsimp only at hk ⊢
    subst hk
    rw [hstands.choice hi hd, hchoice]
    rfl
  finish i v hk h := by
    obtain ⟨hi, hd, hstands⟩ := h.stands
    dsimp only at hk ⊢
    subst hk
    rw [hstands.land hi hd, hreached]
    rfl

theorem walkBack_turn {w : Cells} {n m x' px py : Nat} {move : Move}
    (hlength : ws.length = d + 1)
    (hread : choiceAt w ((x : Int) - y + (d + 1 : Nat) + 1) ((x : Int) - y) n m =
      .ok (some ((x' : Int), move)))
    (hcrosses : move = .insert ∧ px = x' ∧ (py : Int) = x' - ((x : Int) - y) - 1 ∨
      move = .delete ∧ px + 1 = x' ∧ (py : Int) = x' - ((x : Int) - y)) (after : List Turn) :
    walkBack n m (w :: ws) x y after =
      walkBack n m ws px py (⟨d + 1, (x : Int) - y, x', x, move⟩ :: after) := by
  match ws with
  | w' :: rest =>
    obtain rfl : rest.length = d := Nat.succ.inj hlength
    rw [walkBack, hread]
    rcases hcrosses with ⟨rfl, rfl, hpy⟩ | ⟨rfl, rfl, hpy⟩
    · rw [hpy]
      rfl
    · rw [hpy, show ((px : Nat) : Int) = (px + 1 : Nat) - 1 by omega]
      rfl

theorem walkBack_repeats (hws : Recorded a b (d + 1) ws)
    (hvisited : ∃ i v, (x : Int) - y = diagonal d i ∧ Visits a b d i v)
    (h : reached a b d ((x : Int) - y) = some x) (after : List Turn) :
    ∃ (s : Nat) (turns : List Turn),
      walkBack a.size b.size ws x y after = .ok ⟨s, s, turns ++ after⟩ ∧
      turns.map Turn.round = List.range' 1 d ∧ (∀ t ∈ turns, Repeats a b t) ∧
      Search.walkBack a.size b.size (earlier a b d) x y (after.flatMap Turn.steps) =
        some (List.replicate s .keep ++ (turns ++ after).flatMap Turn.steps) := by
  induction d generalizing x y ws after with
  | zero =>
    obtain ⟨hk, -⟩ := Search.reached_zero h
    obtain rfl : y = x := by omega
    cases hws with
    | round before hv =>
      cases before
      exact ⟨y, [], rfl, rfl, by simp, rfl⟩
  | succ d ih =>
    obtain ⟨x', move, px, py, hlast⟩ := Search.reached_lastMove h
    obtain ⟨i, hi, hdiagonal⟩ := Search.reached_diagonal h
    obtain ⟨i', hi', hdiagonal'⟩ := Search.reached_diagonal hlast.start
    have hturn := repeats_reached hvisited hlast.choice h
    cases hws with
    | round before hv =>
      have hread := choiceAt_window hv hi hdiagonal
      rw [hlast.choice] at hread
      obtain ⟨v', hv'⟩ := hv.before hi' (.inl (Nat.lt_succ_self d))
      obtain ⟨s, turns, hwalk, hrounds, hrepeats, hsteps⟩ := ih before ⟨i', v', hdiagonal', hv'⟩
        hlast.start (⟨d + 1, (x : Int) - y, x', x, move⟩ :: after)
      refine ⟨s, turns ++ [⟨d + 1, (x : Int) - y, x', x, move⟩], ?_, ?_, ?_, ?_⟩
      · rw [walkBack_turn before.length hread hlast.crosses, hwalk, List.append_assoc]
        rfl
      · rw [List.map_append, hrounds, List.range'_1_concat, Nat.add_comm 1 d]
        rfl
      · intro t ht
        obtain ht | ht := List.mem_append.mp ht
        · exact hrepeats t ht
        · rw [List.mem_singleton.mp ht]
          exact hturn
      · rw [hlast.walkBack_eq h, List.append_assoc]
        simpa [Turn.steps] using hsteps

structure Retraces (a b : Array α) (d : Nat) (ws : List Cells) (way : Way) : Prop where
  /-- The windows are those of the rounds up to the last one. -/
  recorded : Recorded a b (d + 1) ws
  /-- No cell outside a window is read, and there always is a move to take back. -/
  walked : walkBack a.size b.size ws a.size b.size [] = .ok way
  /-- One turn for each round but round 0, in the order of the rounds. -/
  rounds : way.turns.map Turn.round = List.range' 1 d
  repeats : ∀ t ∈ way.turns, Repeats a b t
  ends : way.x = way.y ∧ 0 ≤ way.x
  moves : cost way.steps = d
  replays : replay a b way.steps 0 0 = some (a.size, b.size)

theorem windows_retraced (a b : Array α) :
    ∃ d ws way, windows a b = .ok ws ∧ Retraces a b d ws way ∧
      Search.steps? a b = some way.steps := by
  obtain ⟨e, htrace, harrives, hleast⟩ := Search.trace_first a b
  have hmost : e ≤ a.size + b.size := by
    have hall := Search.arrivesBy_cost (edits_replace a.toList b.toList)
    simpa using hleast _ hall
  have hfirst (d : Nat) (hd : d < e) : reached a b d (goal a b) ≠ some a.size := fun h =>
    absurd (hleast d ⟨d, Nat.le_refl d, h⟩) (Nat.not_le.mpr hd)
  obtain ⟨ws, hsearch, hrecorded, j, v, hgoal, hvisits⟩ := search_recorded harrives hfirst hmost
    (a.size + b.size + 1) .start .none (Nat.zero_le e) (by omega)
  obtain ⟨s, turns, hwalk, hrounds, hrepeats, hsteps⟩ :=
    walkBack_repeats hrecorded ⟨j, v, hgoal, hvisits⟩ harrives []
  obtain ⟨steps, hsteps', hfinish, hcost⟩ :=
    Search.walkBack_finishes harrives Search.finishes_corner
  obtain rfl := Option.some.inj (hsteps'.symm.trans hsteps)
  rw [List.append_nil] at *
  refine ⟨e, ws, ⟨s, s, turns⟩, hsearch, ⟨hrecorded, hwalk, hrounds, hrepeats,
    ⟨rfl, Int.natCast_nonneg s⟩, ?_, ?_⟩, ?_⟩
  · simpa [Way.steps] using hcost
  · exact replay_finishes (Nat.zero_le _) (Nat.zero_le _) hfinish
  · rw [Search.steps?, htrace, Option.bind_some]
    exact hsteps'

/-- The steps of a shortest edit are found in one array: the search stops in some round, the way back
retraces it, and the steps are those of the search with a frontier for each round. -/
theorem shortestEdit_retraced (a b : Array α) :
    ∃ d ws way, windows a b = .ok ws ∧ Retraces a b d ws way ∧
      shortestEdit a b = .ok way.steps ∧ Search.steps? a b = some way.steps := by
  obtain ⟨d, ws, way, hws, hway, hsteps⟩ := windows_retraced a b
  refine ⟨d, ws, way, hws, hway, ?_, hsteps⟩
  obtain ⟨steps, hsteps', hedits, -⟩ := Search.steps_cheapest a b
  obtain rfl := Option.some.inj (hsteps'.symm.trans hsteps)
  rw [shortestEdit]
  split
  · next hsize =>
    rw [Array.toList_eq_nil_iff.mpr (Array.size_eq_zero_iff.mp hsize)] at hedits
    rw [edits_nil_left hedits, Array.length_toList]
  · split
    · next hsize =>
      rw [Array.toList_eq_nil_iff.mpr (Array.size_eq_zero_iff.mp hsize)] at hedits
      rw [edits_nil_right hedits, Array.length_toList]
    · rw [hws]
      change (walkBack _ _ _ _ _ _ >>= _) = _
      rw [hway.walked]
      rfl

end ReviewDiff.InPlace
