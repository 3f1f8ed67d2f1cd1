import Mathlib.Data.List.Induction
import ReviewDiff.Proofs.Cache.Move

/-!
# Runs of callers

A run starts with callers none of whom has asked for anything, at any time of the clock. What holds
of the first callers and is kept by every move holds at every moment of a run. The moments of a run
are counted by its happenings, so that what is said of a run can refer to what happened earlier.
-/

set_option autoImplicit false

namespace ReviewDiff.Callers

/-- Callers at a time of the clock, none of whom has asked for anything. -/
def startAt (limits : Limits) (time : Seconds) : Callers := { start limits with now := time }

/-- The `i`-th happening of a run, together with the callers as it meets them. -/
def Occurs (first : Callers) (hs : List Happening) (i : Nat) (x : Happening) (w : Callers) : Prop :=
  hs[i]? = some x ∧ first.run (hs.take i) = some w

def tally (count : Callers → Happening → Nat) : Callers → List Happening → Nat
  | _, [] => 0
  | w, x :: rest => count w x + ((w.after x).elim 0 fun next => tally count next rest)

variable {first w next : Callers} {hs : List Happening} {x y : Happening} {i : Nat}

theorem run_append (w : Callers) (hs more : List Happening) :
    w.run (hs ++ more) = (w.run hs).bind fun next => next.run more := by
  induction hs generalizing w with
  | nil => rfl
  | cons x rest ih =>
    rw [List.cons_append, run, run]
    cases w.after x with
    | none => rfl
    | some next => exact ih next

theorem run_concat :
    first.run (hs ++ [x]) = some next ↔ ∃ w, first.run hs = some w ∧ w.after x = some next := by
  have hlast (w : Callers) : w.run [x] = w.after x := by
    rw [run]
    exact Option.bind_fun_some _
  simp only [run_append, hlast, Option.bind_eq_some_iff]

theorem run_induction {P : List Happening → Callers → Prop} (hfirst : P [] first)
    (hmove : ∀ hs w x next, first.run hs = some w → P hs w → Move w x next → P (hs ++ [x]) next)
    (hrun : first.run hs = some w) : P hs w := by
  induction hs using List.reverseRecOn generalizing w with
  | nil => exact Option.some.inj hrun ▸ hfirst
  | append_singleton hs x ih =>
    obtain ⟨before, hbefore, hafter⟩ := run_concat.mp hrun
    exact hmove hs before x w hbefore (ih hbefore) (after_move hafter)

theorem tally_concat (count : Callers → Happening → Nat) (hrun : first.run hs = some w) :
    tally count first (hs ++ [x]) = tally count first hs + count w x := by
  induction hs generalizing first with
  | nil =>
    obtain rfl := Option.some.inj hrun
    cases hafter : first.after x <;> simp [tally, hafter]
  | cons y rest ih =>
    obtain ⟨second, hafter, hrest⟩ := Option.bind_eq_some_iff.mp hrun
    simp only [List.cons_append, tally, hafter, Option.elim_some, ih hrest, Nat.add_assoc]

theorem Occurs.lt (h : Occurs first hs i x w) : i < hs.length :=
  (List.getElem?_eq_some_iff.mp h.1).1

theorem Occurs.concat (h : Occurs first hs i x w) : Occurs first (hs ++ [y]) i x w := by
  refine ⟨?_, ?_⟩
  · rw [List.getElem?_append_left h.lt]
    exact h.1
  · rw [List.take_append_of_le_length (Nat.le_of_lt h.lt)]
    exact h.2

theorem occurs_last (hrun : first.run hs = some w) : Occurs first (hs ++ [x]) hs.length x w := by
  refine ⟨List.getElem?_concat_length, ?_⟩
  rw [List.take_left]
  exact hrun

theorem occurs_concat (h : Occurs first (hs ++ [y]) i x w) :
    Occurs first hs i x w ∨ i = hs.length ∧ x = y ∧ first.run hs = some w := by
  obtain ⟨hx, hrun⟩ := h
  obtain hlt | heq | hgt := Nat.lt_trichotomy i hs.length
  · rw [List.getElem?_append_left hlt] at hx
    rw [List.take_append_of_le_length (Nat.le_of_lt hlt)] at hrun
    exact .inl ⟨hx, hrun⟩
  · subst heq
    rw [List.getElem?_concat_length] at hx
    rw [List.take_left] at hrun
    exact .inr ⟨rfl, (Option.some.inj hx).symm, hrun⟩
  · rw [List.getElem?_eq_none (by simp; omega)] at hx
    cases hx

theorem Occurs.unique {v : Callers} (hx : Occurs first hs i x w) (hy : Occurs first hs i y v) :
    x = y ∧ w = v :=
  ⟨Option.some.inj (hx.1.symm.trans hy.1), Option.some.inj (hx.2.symm.trans hy.2)⟩

theorem Occurs.after (h : Occurs first hs i x w) (hrun : first.run hs = some next) :
    ∃ v, w.after x = some v := by
  have hsplit : hs = hs.take i ++ x :: hs.drop (i+1) := by
    obtain ⟨hlt, hx⟩ := List.getElem?_eq_some_iff.mp h.1
    rw [← hx, List.getElem_cons_drop, List.take_append_drop]
  rw [hsplit, run_append, h.2, Option.bind_some, run] at hrun
  obtain ⟨v, hv, -⟩ := Option.bind_eq_some_iff.mp hrun
  exact ⟨v, hv⟩

theorem turn_phase_self (w : Callers) (who : Caller) (phase : Phase) :
    (w.turn who phase).phase who = phase := if_pos rfl

theorem turn_phase_ne (w : Callers) {who other : Caller} (phase : Phase) (hne : other ≠ who) :
    (w.turn who phase).phase other = w.phase other := if_neg hne

theorem turn_forall {Q : Caller → Phase → Prop} {who : Caller} {phase : Phase} (hself : Q who phase)
    (hothers : ∀ c, c ≠ who → Q c (w.phase c)) (c : Caller) : Q c ((w.turn who phase).phase c) := by
  by_cases hc : c = who
  · subst hc
    rw [turn_phase_self]
    exact hself
  · rw [turn_phase_ne w phase hc]
    exact hothers c hc

theorem turn_keeps {α : Type} {who : Caller} {phase : Phase} (f : Phase → α)
    (h : f phase = f (w.phase who)) (c : Caller) :
    f ((w.turn who phase).phase c) = f (w.phase c) := by
  by_cases hc : c = who
  · rw [hc, turn_phase_self, h]
  · rw [turn_phase_ne w phase hc]

theorem turn_some {α : Type} {who c : Caller} {phase : Phase} {f : Phase → Option α} {a : α}
    (h : f ((w.turn who phase).phase c) = some a) :
    c = who ∧ f phase = some a ∨ c ≠ who ∧ f (w.phase c) = some a := by
  by_cases hc : c = who
  · rw [hc, turn_phase_self] at h
    exact .inl ⟨hc, h⟩
  · rw [turn_phase_ne w phase hc] at h
    exact .inr ⟨hc, h⟩

theorem turn_others {α : Type} {who c : Caller} {phase : Phase} {f : Phase → Option α} {a : α}
    (hnone : f phase = none) (h : f ((w.turn who phase).phase c) = some a) :
    c ≠ who ∧ f (w.phase c) = some a :=
  (turn_some h).resolve_left fun hself => nomatch hnone.symm.trans hself.2

theorem free_keeps {α : Type} {who : Caller} {a : α} (f : Phase → α) (hfree : w.isFree who = true)
    (hidle : f .idle = a) (hgot : ∀ lines, f (.got lines) = a)
    (hanswered : ∀ outcome, f (.answered outcome) = a) : f (w.phase who) = a := by
  rw [isFree] at hfree
  split at hfree
  case h_1 hphase => rw [hphase, hidle]
  case h_2 hphase => rw [hphase, hgot]
  case h_3 hphase => rw [hphase, hanswered]
  case h_4 => cases hfree

end ReviewDiff.Callers
