import Mathlib.Data.List.Pairwise
import Mathlib.Data.Nat.Init
import ReviewDiff.Diff.Line

/-!
# Context windows

A position of an output is kept when a change stands at most `n` lines away. The kept positions form
maximal runs, and this module says how those of an output come from those of its parts: a part all
of whose lines are kept is one run, if the lines around it are further from every change.
-/

set_option autoImplicit false

namespace ReviewDiff

def DiffLine.isChange : DiffLine → Bool
  | .added .. => true
  | .removed .. => true
  | _ => false

/-- A change stands at a position. -/
def ChangeAt (lines : List DiffLine) (p : Nat) : Prop :=
  ∃ line, lines[p]? = some line ∧ line.isChange

/-- A change stands at most `n` lines away from a position. -/
def Near (n : Nat) (lines : List DiffLine) (p : Nat) : Prop :=
  ∃ q, ChangeAt lines q ∧ p ≤ q + n ∧ q ≤ p + n

/-- No line is a change. -/
def Calm (lines : List DiffLine) : Prop := ∀ line ∈ lines, line.isChange = false

def StartsCalm (n : Nat) (lines : List DiffLine) : Prop :=
  n ≤ lines.length ∧ ∀ q, ChangeAt lines q → n ≤ q

def EndsCalm (n : Nat) (lines : List DiffLine) : Prop :=
  n ≤ lines.length ∧ ∀ q, ChangeAt lines q → q + n < lines.length

structure Covered (n : Nat) (lines : List DiffLine) : Prop where
  changed : ∃ q, ChangeAt lines q
  near : ∀ p, p < lines.length → Near n lines p

def Trails (n : Nat) (lines : List DiffLine) : Prop :=
  ∀ p, p < lines.length → p < n ∨ Near n lines p

/-- Consecutive positions. -/
structure Stretch where
  start : Nat
  stop : Nat

namespace Stretch

def Holds (s : Stretch) (p : Nat) : Prop := s.start ≤ p ∧ p < s.stop

def shift (k : Nat) (s : Stretch) : Stretch := ⟨k + s.start, k + s.stop⟩

/-- The lines at the positions of a stretch. -/
def slice {α : Type} (lines : List α) (s : Stretch) : List α :=
  (lines.drop s.start).take (s.stop - s.start)

theorem shift_holds (k p : Nat) (s : Stretch) : (s.shift k).Holds p ↔ k ≤ p ∧ s.Holds (p - k) := by
  simp only [Holds, shift]
  omega

theorem slice_shift {α : Type} (before lines : List α) (s : Stretch) :
    (s.shift before.length).slice (before ++ lines) = s.slice lines := by
  have hlen : before.length + s.stop - (before.length + s.start) = s.stop - s.start := by omega
  rw [slice, slice, shift, hlen, ← List.drop_drop, List.drop_left]

theorem slice_front {α : Type} (lines rest : List α) :
    (⟨0, lines.length⟩ : Stretch).slice (lines ++ rest) = lines := by
  simp [slice]

end Stretch

/-- The runs hold the kept positions below a bound and no other, and between two of them a position
is left out. -/
structure MaximalRuns (keep : Nat → Prop) (bound : Nat) (runs : List Stretch) : Prop where
  nonempty : ∀ s ∈ runs, s.start < s.stop
  bounded : ∀ s ∈ runs, s.stop ≤ bound
  apart : runs.Pairwise fun s t => s.stop < t.start
  exact : ∀ p, p < bound → (keep p ↔ ∃ s ∈ runs, s.Holds p)

theorem changeAt_lt {lines : List DiffLine} {p : Nat} (h : ChangeAt lines p) :
    p < lines.length := by
  obtain ⟨line, hline, -⟩ := h
  exact (List.getElem?_eq_some_iff.mp hline).1

theorem changeAt_append (lines rest : List DiffLine) (p : Nat) :
    ChangeAt (lines ++ rest) p ↔
      ChangeAt lines p ∨ lines.length ≤ p ∧ ChangeAt rest (p - lines.length) := by
  by_cases hp : p < lines.length
  · have hnot : ¬ lines.length ≤ p := by omega
    simp only [ChangeAt, List.getElem?_append_left hp, hnot, false_and, or_false]
  · have hle : lines.length ≤ p := by omega
    have hnot : ¬ ChangeAt lines p := fun h => hp (changeAt_lt h)
    simp only [hnot, hle, false_or, true_and]
    simp only [ChangeAt, List.getElem?_append_right hle]

theorem changeAt_shift {lines rest : List DiffLine} {p : Nat} (h : ChangeAt rest p) :
    ChangeAt (lines ++ rest) (lines.length + p) := by
  rw [changeAt_append, Nat.add_sub_cancel_left]
  exact .inr ⟨by omega, h⟩

theorem calm_changeAt {lines : List DiffLine} (h : Calm lines) (p : Nat) : ¬ ChangeAt lines p := by
  rintro ⟨line, hline, hchange⟩
  rw [h line (List.mem_of_getElem? hline)] at hchange
  exact Bool.false_ne_true hchange

theorem calm_append {lines rest : List DiffLine} (h : Calm lines) (h' : Calm rest) :
    Calm (lines ++ rest) := by
  intro line hline
  rcases List.mem_append.mp hline with hmem | hmem
  · exact h line hmem
  · exact h' line hmem

theorem near_left {n p : Nat} {lines : List DiffLine} (rest : List DiffLine) (h : Near n lines p) :
    Near n (lines ++ rest) p := by
  obtain ⟨q, hq, hle, hle'⟩ := h
  exact ⟨q, (changeAt_append ..).mpr (.inl hq), hle, hle'⟩

theorem near_right {n p : Nat} (lines : List DiffLine) {rest : List DiffLine} (h : Near n rest p) :
    Near n (lines ++ rest) (lines.length + p) := by
  obtain ⟨q, hq, hle, hle'⟩ := h
  exact ⟨lines.length + q, changeAt_shift hq, by omega, by omega⟩

theorem near_shift {n : Nat} {lines rest : List DiffLine}
    (hfar : ∀ q, ChangeAt lines q → q + n < lines.length) (p : Nat) :
    Near n (lines ++ rest) (lines.length + p) ↔ Near n rest p := by
  refine ⟨fun ⟨q, hq, hle, hle'⟩ => ?_, near_right lines⟩
  rcases (changeAt_append ..).mp hq with hleft | ⟨hge, hright⟩
  · have := hfar q hleft
    omega
  · exact ⟨q - lines.length, hright, by omega, by omega⟩

theorem calm_near {n : Nat} {lines : List DiffLine} (h : Calm lines) (p : Nat) :
    ¬ Near n lines p := fun ⟨q, hq, _, _⟩ => calm_changeAt h q hq

theorem startsCalm_append {n : Nat} {lines : List DiffLine} (rest : List DiffLine)
    (h : StartsCalm n lines) : StartsCalm n (lines ++ rest) := by
  have hlen := h.1
  rw [StartsCalm, List.length_append]
  refine ⟨by omega, fun q hq => ?_⟩
  rcases (changeAt_append ..).mp hq with hleft | ⟨hge, -⟩
  · exact h.2 q hleft
  · omega

theorem endsCalm_append {n : Nat} (lines : List DiffLine) {rest : List DiffLine}
    (h : EndsCalm n rest) : EndsCalm n (lines ++ rest) := by
  have hlen := h.1
  rw [EndsCalm, List.length_append]
  refine ⟨by omega, fun q hq => ?_⟩
  rcases (changeAt_append ..).mp hq with hleft | ⟨hge, hright⟩
  · have := changeAt_lt hleft
    omega
  · have := h.2 _ hright
    omega

theorem calm_starts {n : Nat} {lines : List DiffLine} (h : Calm lines) (hlen : lines.length = n) :
    StartsCalm n lines := ⟨by omega, fun q hq => absurd hq (calm_changeAt h q)⟩

theorem calm_ends {n : Nat} {lines : List DiffLine} (h : Calm lines) (hlen : lines.length = n) :
    EndsCalm n lines := ⟨by omega, fun q hq => absurd hq (calm_changeAt h q)⟩

theorem short_trails {n : Nat} {lines : List DiffLine} (hlen : lines.length ≤ n) :
    Trails n lines := fun _ hp => .inl (Nat.lt_of_lt_of_le hp hlen)

theorem changes_changeAt {changes : List DiffLine} (rest : List DiffLine)
    (h : ∀ line ∈ changes, line.isChange) {p : Nat} (hp : p < changes.length) :
    ChangeAt (changes ++ rest) p :=
  (changeAt_append ..).mpr
    (.inl ⟨changes[p], List.getElem?_eq_getElem hp, h _ (List.getElem_mem hp)⟩)

theorem changes_covered {n : Nat} {changes rest : List DiffLine} (hne : changes ≠ [])
    (hchanges : ∀ line ∈ changes, line.isChange) (hrest : Trails n rest) :
    Covered n (changes ++ rest) := by
  have hpos := List.length_pos_iff.mpr hne
  refine ⟨⟨0, changes_changeAt rest hchanges hpos⟩, fun p hp => ?_⟩
  rw [List.length_append] at hp
  by_cases hlt : p < changes.length
  · exact ⟨p, changes_changeAt rest hchanges hlt, by omega, by omega⟩
  · obtain ⟨t, rfl⟩ := Nat.exists_eq_add_of_le (Nat.le_of_not_lt hlt)
    rcases hrest t (by omega) with hclose | hnear
    · exact ⟨changes.length - 1, changes_changeAt rest hchanges (by omega), by omega, by omega⟩
    · exact near_right changes hnear

theorem gap_covered {n : Nat} {gap lines : List DiffLine} (hlen : gap.length ≤ n)
    (hfirst : ChangeAt lines 0) (hlines : Covered n lines) : Covered n (gap ++ lines) := by
  refine ⟨⟨_, changeAt_shift hfirst⟩, fun p hp => ?_⟩
  rw [List.length_append] at hp
  by_cases hlt : p < gap.length
  · exact ⟨gap.length + 0, changeAt_shift hfirst, by omega, by omega⟩
  · obtain ⟨t, rfl⟩ := Nat.exists_eq_add_of_le (Nat.le_of_not_lt hlt)
    exact near_right gap (hlines.near t (by omega))

theorem gap_trails {n : Nat} {gap lines : List DiffLine} (hlen : gap.length ≤ 2 * n)
    (hfirst : ChangeAt lines 0) (hlines : Covered n lines) : Trails n (gap ++ lines) := by
  intro p hp
  rw [List.length_append] at hp
  by_cases hlt : p < gap.length
  · by_cases hclose : p < n
    · exact .inl hclose
    · exact .inr ⟨gap.length + 0, changeAt_shift hfirst, by omega, by omega⟩
  · obtain ⟨t, rfl⟩ := Nat.exists_eq_add_of_le (Nat.le_of_not_lt hlt)
    exact .inr (near_right gap (hlines.near t (by omega)))

theorem runs_calm {n : Nat} {lines : List DiffLine} (h : Calm lines) :
    MaximalRuns (Near n lines) lines.length [] where
  nonempty := by simp
  bounded := by simp
  apart := .nil
  exact p _ := iff_of_false (calm_near h p) (by simp)

theorem shift_apart {runs : List Stretch} (k : Nat)
    (h : runs.Pairwise fun s t => s.stop < t.start) :
    (runs.map (Stretch.shift k)).Pairwise fun s t => s.stop < t.start := by
  rw [List.pairwise_map]
  refine h.imp fun hlt => ?_
  simp only [Stretch.shift]
  omega

theorem shift_exists {runs : List Stretch} (k p : Nat) :
    (∃ s ∈ runs.map (Stretch.shift k), s.Holds p) ↔ k ≤ p ∧ ∃ s ∈ runs, s.Holds (p - k) := by
  constructor
  · rintro ⟨_, hmem, hholds⟩
    obtain ⟨s, hs, rfl⟩ := List.mem_map.mp hmem
    obtain ⟨hle, hholds⟩ := (Stretch.shift_holds ..).mp hholds
    exact ⟨hle, s, hs, hholds⟩
  · rintro ⟨hle, s, hs, hholds⟩
    exact ⟨s.shift k, List.mem_map_of_mem hs, (Stretch.shift_holds ..).mpr ⟨hle, hholds⟩⟩

theorem runs_gap {n : Nat} {gap lines : List DiffLine} {runs : List Stretch} (hgap : Calm gap)
    (hcalm : gap ≠ [] → StartsCalm n lines) (h : MaximalRuns (Near n lines) lines.length runs) :
    MaximalRuns (Near n (gap ++ lines)) (gap ++ lines).length
      (runs.map (Stretch.shift gap.length)) where
  nonempty := by
    intro s hs
    obtain ⟨t, ht, rfl⟩ := List.mem_map.mp hs
    have := h.nonempty t ht
    simp only [Stretch.shift]
    omega
  bounded := by
    intro s hs
    obtain ⟨t, ht, rfl⟩ := List.mem_map.mp hs
    have := h.bounded t ht
    rw [List.length_append]
    simp only [Stretch.shift]
    omega
  apart := shift_apart gap.length h.apart
  exact := by
    intro p hp
    rw [List.length_append] at hp
    rw [shift_exists]
    by_cases hlt : p < gap.length
    · refine iff_of_false (fun ⟨q, hq, hle, hle'⟩ => ?_) (by omega)
      rcases (changeAt_append ..).mp hq with hleft | ⟨hge, hright⟩
      · exact calm_changeAt hgap q hleft
      · have hne : gap ≠ [] := List.ne_nil_of_length_pos (by omega)
        have := (hcalm hne).2 _ hright
        omega
    · obtain ⟨t, rfl⟩ := Nat.exists_eq_add_of_le (Nat.le_of_not_lt hlt)
      have hfar (q : Nat) (hq : ChangeAt gap q) : q + n < gap.length :=
        absurd hq (calm_changeAt hgap q)
      rw [near_shift hfar, Nat.add_sub_cancel_left, h.exact t (by omega)]
      exact ⟨fun hrun => ⟨by omega, hrun⟩, And.right⟩

theorem runs_behind {n : Nat} {lines : List DiffLine} {runs : List Stretch}
    (hlines : ∀ q, ChangeAt lines q → n < q) (h : MaximalRuns (Near n lines) lines.length runs) :
    ∀ s ∈ runs, 0 < s.start := by
  intro s hs
  refine Nat.pos_of_ne_zero fun hzero => ?_
  have hlt := h.nonempty s hs
  have hbound := h.bounded s hs
  obtain ⟨q, hq, -, hle⟩ : Near n lines 0 := (h.exact 0 (by omega)).mpr ⟨s, hs, by omega, by omega⟩
  have := hlines q hq
  omega

theorem runs_covered {n : Nat} {lines rest : List DiffLine} {runs : List Stretch}
    (hlines : Covered n lines) (hends : rest ≠ [] → EndsCalm n lines)
    (hrest : ∀ q, ChangeAt rest q → n < q) (h : MaximalRuns (Near n rest) rest.length runs) :
    MaximalRuns (Near n (lines ++ rest)) (lines ++ rest).length
      (⟨0, lines.length⟩ :: runs.map (Stretch.shift lines.length)) where
  nonempty := by
    intro s hs
    rcases List.mem_cons.mp hs with rfl | hmem
    · obtain ⟨q, hq⟩ := hlines.changed
      exact Nat.zero_lt_of_lt (changeAt_lt hq)
    · obtain ⟨t, ht, rfl⟩ := List.mem_map.mp hmem
      have := h.nonempty t ht
      simp only [Stretch.shift]
      omega
  bounded := by
    intro s hs
    rw [List.length_append]
    rcases List.mem_cons.mp hs with rfl | hmem
    · exact Nat.le_add_right ..
    · obtain ⟨t, ht, rfl⟩ := List.mem_map.mp hmem
      have := h.bounded t ht
      simp only [Stretch.shift]
      omega
  apart := by
    refine List.pairwise_cons.mpr ⟨fun s hs => ?_, shift_apart lines.length h.apart⟩
    obtain ⟨t, ht, rfl⟩ := List.mem_map.mp hs
    have hstart := runs_behind hrest h t ht
    simp only [Stretch.shift]
    omega
  exact := by
    intro p hp
    rw [List.length_append] at hp
    by_cases hlt : p < lines.length
    · exact iff_of_true (near_left rest (hlines.near p hlt))
        ⟨_, List.mem_cons_self .., Nat.zero_le p, hlt⟩
    · obtain ⟨t, rfl⟩ := Nat.exists_eq_add_of_le (Nat.le_of_not_lt hlt)
      have hne : rest ≠ [] := List.ne_nil_of_length_pos (by omega)
      rw [near_shift (hends hne).2, h.exact t (by omega)]
      have hout : ¬ (⟨0, lines.length⟩ : Stretch).Holds (lines.length + t) := fun hin => hlt hin.2
      simp only [List.mem_cons, exists_eq_or_imp, shift_exists, hout, false_or,
        Nat.add_sub_cancel_left, Nat.le_add_right, true_and]

theorem runs_none {n : Nat} {lines : List DiffLine} {runs : List Stretch}
    (h : MaximalRuns (Near n lines) lines.length runs) : runs = [] ↔ Calm lines := by
  constructor
  · rintro rfl line hmem
    obtain ⟨p, hp, rfl⟩ := List.getElem_of_mem hmem
    by_contra hchange
    have hnear : Near n lines p :=
      ⟨p, ⟨_, List.getElem?_eq_getElem hp, Bool.of_not_eq_false hchange⟩, by omega, by omega⟩
    obtain ⟨s, hs, -⟩ := (h.exact p hp).mp hnear
    exact List.not_mem_nil hs
  · intro hcalm
    refine List.eq_nil_iff_forall_not_mem.mpr fun s hs => ?_
    have hlt := h.nonempty s hs
    have hbound := h.bounded s hs
    exact calm_near hcalm s.start ((h.exact s.start (by omega)).mpr ⟨s, hs, by omega, hlt⟩)

theorem runs_apart {keep : Nat → Prop} {bound : Nat} {runs : List Stretch} {s t : Stretch}
    (h : MaximalRuns keep bound runs) (hs : s ∈ runs) (ht : t ∈ runs) (hne : s ≠ t) :
    s.stop < t.start ∨ t.stop < s.start := by
  obtain ⟨i, hi, rfl⟩ := List.getElem_of_mem hs
  obtain ⟨j, hj, rfl⟩ := List.getElem_of_mem ht
  have hpair := List.pairwise_iff_getElem.mp h.apart
  rcases Nat.lt_trichotomy i j with hij | rfl | hij
  · exact .inl (hpair i j hi hj hij)
  · exact absurd rfl hne
  · exact .inr (hpair j i hj hi hij)

theorem runs_connected {keep : Nat → Prop} {bound p q : Nat} {runs : List Stretch}
    (h : MaximalRuns keep bound runs) (hle : p ≤ q) (hq : q < bound)
    (hkeep : ∀ t, p ≤ t → t ≤ q → keep t) : ∃ s ∈ runs, s.Holds p ∧ s.Holds q := by
  induction q, hle using Nat.le_induction with
  | base =>
    obtain ⟨s, hs, hholds⟩ := (h.exact p hq).mp (hkeep p (by omega) (by omega))
    exact ⟨s, hs, hholds, hholds⟩
  | succ q hpq ih =>
    obtain ⟨s, hs, hp, hsq⟩ := ih (by omega) fun t ht ht' => hkeep t ht (by omega)
    obtain ⟨t, ht, htq⟩ := (h.exact (q+1) hq).mp (hkeep (q+1) (by omega) (by omega))
    by_cases heq : s = t
    · exact ⟨s, hs, hp, heq ▸ htq⟩
    · -- Two runs leave out a position between them, but here the second goes on after the first.
      have hapart := runs_apart h hs ht heq
      have := hsq.2
      have := htq.1
      have := htq.2
      have := hsq.1
      omega

theorem runs_within {keep : Nat → Prop} {bound : Nat} {runs runs' : List Stretch}
    (h : MaximalRuns keep bound runs) (h' : MaximalRuns keep bound runs') {s : Stretch}
    (hs : s ∈ runs) : ∃ t ∈ runs', t.start ≤ s.start ∧ s.stop ≤ t.stop := by
  have hlt := h.nonempty s hs
  have hbound := h.bounded s hs
  have hkeep (p : Nat) (hp : s.start ≤ p) (hp' : p ≤ s.stop - 1) : keep p :=
    (h.exact p (by omega)).mpr ⟨s, hs, hp, by omega⟩
  obtain ⟨t, ht, hfirst, hlast⟩ := runs_connected h' (by omega) (by omega) hkeep
  have := hlast.2
  exact ⟨t, ht, hfirst.1, by omega⟩

theorem runs_subset {keep : Nat → Prop} {bound : Nat} {runs runs' : List Stretch}
    (h : MaximalRuns keep bound runs) (h' : MaximalRuns keep bound runs') : runs ⊆ runs' := by
  intro s hs
  obtain ⟨t, ht, hstart, hstop⟩ := runs_within h h' hs
  obtain ⟨u, hu, hstart', hstop'⟩ := runs_within h' h ht
  have hlt := h.nonempty s hs
  have heq : s = u := by
    by_contra hne
    have := runs_apart h hs hu hne
    omega
  subst heq
  obtain ⟨start, stop⟩ := s
  obtain ⟨start', stop'⟩ := t
  obtain rfl : start' = start := Nat.le_antisymm hstart hstart'
  obtain rfl : stop' = stop := Nat.le_antisymm hstop' hstop
  exact ht

theorem maximalRuns_unique {keep : Nat → Prop} {bound : Nat} {runs runs' : List Stretch}
    (h : MaximalRuns keep bound runs) (h' : MaximalRuns keep bound runs') : runs = runs' := by
  have hordered {runs : List Stretch} (h : MaximalRuns keep bound runs) :
      runs.Pairwise fun s t => s.start < t.start :=
    h.apart.imp_of_mem fun {s t} hs _ hlt => Nat.lt_trans (h.nonempty s hs) hlt
  have hnodup {runs : List Stretch} (h : MaximalRuns keep bound runs) : runs.Nodup :=
    (hordered h).imp fun hlt heq => Nat.ne_of_lt hlt (congrArg Stretch.start heq)
  have hperm : runs.Perm runs' := (List.perm_ext_iff_of_nodup (hnodup h) (hnodup h')).mpr
    fun s => ⟨fun hs => runs_subset h h' hs, fun hs => runs_subset h' h hs⟩
  exact hperm.eq_of_pairwise (fun s t _ _ hlt hlt' => absurd hlt (Nat.lt_asymm hlt'))
    (hordered h) (hordered h')

theorem runs_shared {n p q : Nat} {lines : List DiffLine} {runs : List Stretch}
    (h : MaximalRuns (Near n lines) lines.length runs) (hp : ChangeAt lines p)
    (hq : ChangeAt lines q) (hlt : p < q) (hbetween : ∀ t, p < t → t < q → ¬ ChangeAt lines t) :
    (∃ s ∈ runs, s.Holds p ∧ s.Holds q) ↔ q - p - 1 ≤ 2 * n := by
  have hbound := changeAt_lt hq
  constructor
  · rintro ⟨s, hs, hsp, hsq⟩
    by_contra hgap
    -- The position behind the window of the first change is in the run and yet near no change.
    have hheld : Near n lines (p + n + 1) := (h.exact (p + n + 1) (by omega)).mpr
      ⟨s, hs, Nat.le_trans hsp.1 (by omega), Nat.lt_of_le_of_lt (by omega) hsq.2⟩
    obtain ⟨t, ht, hle, hle'⟩ := hheld
    exact hbetween t (by omega) (by omega) ht
  · intro hgap
    refine runs_connected h (by omega) hbound fun t ht ht' => ?_
    by_cases hclose : t ≤ p + n
    · exact ⟨p, hp, hclose, by omega⟩
    · exact ⟨q, hq, by omega, by omega⟩

end ReviewDiff
