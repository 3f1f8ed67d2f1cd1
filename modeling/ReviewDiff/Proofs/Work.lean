import ReviewDiff.Work

/-!
# Conditions on work

A condition on the state before a piece of work, and one on its outcome together with the state that
it leaves. Nothing is said of the log: what work does never depends on it. Also when work on one
kind of state is, seen through a view of the states, work on another kind.
-/

set_option autoImplicit false

namespace ReviewDiff.Work

variable {σ τ α β : Type}

/-- From a state with the first condition, outcome and state afterwards have the second one. -/
def Meets (P : σ → Prop) (t : Work σ α) (Q : Except Fault α → σ → Prop) : Prop :=
  ∀ s : Traced σ, P s.state → Q (t.run s).1 (t.run s).2.state

/-- From every state with a property work comes to one and the same outcome, and the property
stays. -/
def Gives (P : σ → Prop) (t : Work σ α) (outcome : Except Fault α) : Prop :=
  Meets P t fun answer x => answer = outcome ∧ P x

variable {P P' : σ → Prop} {t : Work σ α} {f : α → Work σ β} {s next : Traced σ} {a : α} {e : Fault}

theorem run_bind_ok (h : t.run s = (.ok a, next)) : (t >>= f).run s = (f a).run next := by
  simp only [run, ExceptT.run] at h ⊢
  simp only [bind, ExceptT.bind, ExceptT.mk, StateT.bind, ExceptT.bindCont, h]

theorem run_bind_error (h : t.run s = (.error e, next)) : (t >>= f).run s = (.error e, next) := by
  simp only [run, ExceptT.run] at h ⊢
  simp only [bind, ExceptT.bind, ExceptT.mk, StateT.bind, ExceptT.bindCont, h]
  rfl

theorem ext {u : Work σ α} (h : ∀ s : Traced σ, t.run s = u.run s) : t = u := funext h

namespace Meets

theorem pure {Q : Except Fault α → σ → Prop} (h : ∀ x, P x → Q (.ok a) x) :
    Meets P (Pure.pure a : Work σ α) Q := fun s hs => h s.state hs

/-- One piece of work after another: the first one's answer and state are where the second one
starts. -/
theorem bind {R : Except Fault α → σ → Prop} {Q : Except Fault β → σ → Prop} (ht : Meets P t R)
    (hok : ∀ a, Meets (R (.ok a)) (f a) Q) (herror : ∀ e x, R (.error e) x → Q (.error e) x) :
    Meets P (t >>= f) Q := by
  intro s hs
  have hfirst := ht s hs
  cases hrun : t.run s with
  | mk outcome next =>
    rw [hrun] at hfirst
    cases outcome with
    | ok a =>
      rw [run_bind_ok hrun]
      exact hok a next hfirst
    | error e =>
      rw [run_bind_error hrun]
      exact herror e next.state hfirst

theorem follow {R : α → σ → Prop} {Q : Except Fault β → σ → Prop}
    (ht : Meets P t fun outcome x => ∃ a, outcome = .ok a ∧ R a x)
    (hf : ∀ a, Meets (R a) (f a) Q) : Meets P (t >>= f) Q := by
  refine ht.bind (fun a s hs => ?_) fun e x hx => ?_
  · obtain ⟨b, ⟨⟩, hb⟩ := hs
    exact hf a s hb
  · obtain ⟨b, ⟨⟩, -⟩ := hx

theorem mono {Q Q' : Except Fault α → σ → Prop} (ht : Meets P t Q) (hbefore : ∀ x, P' x → P x)
    (hafter : ∀ outcome x, Q outcome x → Q' outcome x) : Meets P' t Q' :=
  fun s hs => hafter _ _ (ht s (hbefore _ hs))

theorem given {p : Prop} {Q : Except Fault α → σ → Prop} (h : p → Meets P t Q) :
    Meets (fun x => p ∧ P x) t Q := fun s hs => h hs.1 s hs.2

theorem get {Q : Except Fault σ → σ → Prop} (h : ∀ x, P x → Q (.ok x) x) : Meets P Work.get Q :=
  fun s hs => h s.state hs

theorem modify {change : σ → σ} {Q : Except Fault Unit → σ → Prop}
    (h : ∀ x, P x → Q (.ok ()) (change x)) : Meets P (Work.modify change) Q :=
  fun s hs => h s.state hs

theorem change {change : σ → α × σ} {Q : Except Fault α → σ → Prop}
    (h : ∀ x, P x → Q (.ok (change x).1) (change x).2) : Meets P (Work.change change) Q :=
  fun s hs => h s.state hs

theorem ofExcept {outcome : Except Fault α} {Q : Except Fault α → σ → Prop}
    (h : ∀ x, P x → Q outcome x) : Meets P (Work.ofExcept outcome) Q :=
  fun s hs => h s.state hs

theorem fail {Q : Except Fault α → σ → Prop} (h : ∀ x, P x → Q (.error e) x) :
    Meets P (Work.fail e : Work σ α) Q := fun s hs => h s.state hs

theorem log {r : LogRecord} {Q : Except Fault Unit → σ → Prop} (h : ∀ x, P x → Q (.ok ()) x) :
    Meets P (Work.log r : Work σ Unit) Q := fun s hs => h s.state hs

theorem logs {Q : Except Fault Unit → σ → Prop} (records : List LogRecord)
    (h : ∀ x, P x → Q (.ok ()) x) : Meets P (records.forM Work.log : Work σ Unit) Q := by
  induction records with
  | nil => exact pure h
  | cons r rest ih =>
    exact follow (R := fun _ => P) (log fun _ hx => ⟨(), rfl, hx⟩) fun _ => ih

theorem attempt {Q : Except Fault (Except Fault α) → σ → Prop}
    (ht : Meets P t fun outcome x => Q (.ok outcome) x) : Meets P t.attempt Q := ht

theorem on {part : τ → σ} {restore : σ → τ → τ} {before : τ → Prop}
    {Q : Except Fault α → τ → Prop}
    (h : ∀ whole, before whole →
      Meets (fun x => x = part whole) t fun outcome x => Q outcome (restore x whole)) :
    Meets before (t.on part restore) Q :=
  fun s hs => h s.state hs ⟨part s.state, s.log⟩ rfl

end Meets

namespace Gives

theorem pure (a : α) : Gives P (Pure.pure a : Work σ α) (.ok a) := Meets.pure fun _ hx => ⟨rfl, hx⟩

theorem ofExcept (outcome : Except Fault α) : Gives P (Work.ofExcept outcome : Work σ α) outcome :=
  Meets.ofExcept fun _ hx => ⟨rfl, hx⟩

theorem log (r : LogRecord) : Gives P (Work.log r : Work σ Unit) (.ok ()) :=
  Meets.log fun _ hx => ⟨rfl, hx⟩

theorem logs (records : List LogRecord) :
    Gives P (records.forM Work.log : Work σ Unit) (.ok ()) :=
  Meets.logs records fun _ hx => ⟨rfl, hx⟩

theorem bind {x : Except Fault α} {g : α → Except Fault β} (ht : Gives P t x)
    (hf : ∀ a, x = .ok a → Gives P (f a) (g a)) : Gives P (t >>= f) (x >>= g) := by
  refine Meets.bind ht (fun a s hs => ?_) fun e s hs => ?_
  · obtain ⟨ha, hP⟩ := hs
    rw [← ha]
    exact hf a ha.symm s hP
  · rw [← hs.1]
    exact ⟨rfl, hs.2⟩

end Gives

/-- Seen through a view of its states, the first work is the second one. -/
def Mirrors (view : τ → σ) (t : Work τ α) (u : Work σ α) : Prop :=
  ∀ s : Traced τ, u.run ⟨view s.state, s.log⟩ =
    ((t.run s).1, ⟨view (t.run s).2.state, (t.run s).2.log⟩)

namespace Mirrors

variable {view : τ → σ} {t : Work τ α} {u : Work σ α} {f : α → Work τ β} {g : α → Work σ β}

theorem pure (a : α) : Mirrors view (Pure.pure a) (Pure.pure a) := fun _ => rfl

theorem ofExcept (x : Except Fault α) : Mirrors view (Work.ofExcept x) (Work.ofExcept x) :=
  fun _ => rfl

theorem fail (e : Fault) : Mirrors view (Work.fail e : Work τ α) (Work.fail e) := fun _ => rfl

theorem log (r : LogRecord) : Mirrors view (Work.log r) (Work.log r) := fun _ => rfl

theorem bind (ht : Mirrors view t u) (hf : ∀ a, Mirrors view (f a) (g a)) :
    Mirrors view (t >>= f) (u >>= g) := by
  intro s
  have hfirst := ht s
  cases hrun : t.run s with
  | mk outcome next =>
    rw [hrun] at hfirst
    cases outcome with
    | ok a => rw [run_bind_ok hrun, run_bind_ok hfirst, hf a next]
    | error e => rw [run_bind_error hrun, run_bind_error hfirst]

theorem get_bind {f : τ → Work τ β} {g : σ → Work σ β}
    (h : ∀ x, Mirrors view (f x) (g (view x))) :
    Mirrors view (Work.get >>= f) (Work.get >>= g) := fun s => h s.state s

theorem logs (records : List LogRecord) :
    Mirrors view (records.forM Work.log) (records.forM Work.log) := by
  induction records with
  | nil => exact pure ()
  | cons r rest ih => exact bind (log r) fun _ => ih

theorem attempt (ht : Mirrors view t u) : Mirrors view t.attempt u.attempt := by
  intro s
  have h := ht s
  simp only [Work.attempt, Work.run, Work.mk, ExceptT.run, ExceptT.mk] at h ⊢
  rw [h]

end Mirrors

end ReviewDiff.Work
