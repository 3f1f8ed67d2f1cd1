import ReviewDiff.Proofs.Cache.SingleFlight

/-!
# Nobody waits in vain

A flight that is not resolved has an owner, who is in the middle of its call. Whatever its
computation comes to, the owner can go on until it has resolved the flight, and it does so within
six moves of its own, whatever else happens meanwhile. All it may have to wait for is the table of
computations, and whoever holds the table lets go of it within four steps that nobody can block.

All this is about computations whose lines have a size. Without one the leader ends before it lets
go of its key.
-/

set_option autoImplicit false

namespace ReviewDiff

def Happening.who? : Happening → Option Caller
  | .get who _ => some who
  | .ask who _ => some who
  | .step who => some who
  | .result who _ => some who
  | _ => none

namespace Phase

def movesLeft : Phase → Nat
  | .registered _ _ => 6
  | .computing _ _ _ => 5
  | .computed _ _ _ _ => 4
  | .storing _ _ _ _ _ => 3
  | .stored _ _ _ => 2
  | .failed _ _ _ => 2
  | .withdrawn _ _ _ => 1
  | _ => 0

def stepsInside : Phase → Nat
  | .holding _ => 4
  | .checking _ _ => 3
  | .alone _ => 2
  | .registered _ _ => 1
  | _ => 0

theorem movesLeft_pos {phase : Phase} {key : CacheKey} {flight : Flight}
    (h : phase.owns? = some (key, flight)) : 0 < phase.movesLeft := by
  cases phase <;> first | exact Nat.succ_pos _ | cases h

end Phase

namespace Callers

open DiffCache Phase

def movesOf (who : Caller) (hs : List Happening) : Nat := hs.countP fun x => x.who? = some who

def HasSize (outcome : Except Fault (List DiffLine)) : Prop :=
  ∀ lines, outcome = .ok lines → ∃ size, estimateSize lines = .ok size

/-- The lines that computations come to in a run have a size. -/
def Sized (hs : List Happening) : Prop := ∀ who outcome, .result who outcome ∈ hs → HasSize outcome

def Measured (w : Callers) : Prop :=
  ∀ c key flight outcome, (w.phase c).result? = some (key, flight, outcome) → HasSize outcome

def PublishesAt (first : Callers) (hs : List Happening) (i : Nat) (leader : Caller)
    (flight : Flight) (outcome : Except Fault (List DiffLine)) : Prop :=
  ∃ w key, Occurs first hs i (.step leader) w ∧ w.phase leader = .withdrawn key flight outcome

/-- The moves of a caller, together with those of whoever holds the table of computations now, can
lead to an outcome of a flight. -/
def CanResolve (w : Callers) (leader : Caller) (flight : Flight)
    (outcome : Except Fault (List DiffLine)) : Prop :=
  ∃ more next, (∀ x ∈ more, ∃ c, x.who? = some c ∧ (c = leader ∨ w.holder = some c)) ∧
    w.run more = some next ∧ next.outcomes.get? flight = some outcome

variable {first w next : Callers} {hs more : List Happening} {x : Happening}
  {who c d leader : Caller} {key : CacheKey} {flight : Flight}
  {outcome : Except Fault (List DiffLine)}

theorem Sized.head (h : Sized (x :: more)) : Sized [x] := fun who outcome hx =>
  h who outcome (List.mem_cons.mpr (.inl (List.mem_singleton.mp hx)))

theorem Sized.tail (h : Sized (x :: more)) : Sized more := fun who outcome hx =>
  h who outcome (List.mem_cons_of_mem x hx)

theorem Move.measured (h : Move w x next) (hx : Sized [x]) (hw : w.Measured) : next.Measured := by
  intro c k f o hresult
  obtain ⟨-, -, hresults⟩ | ⟨who, key, flight, started, outcome, phase, rfl, -, rfl, hself⟩ |
    ⟨who, key, flight, outcome, -, -, rfl⟩ |
    ⟨who, key, flight, started, lines, now, e, -, -, -, rfl⟩ := h.results
  · exact hw c k f o (hresults c ▸ hresult)
  · obtain ⟨-, hnew⟩ | ⟨-, hold⟩ := turn_some hresult
    · rw [hself] at hnew
      cases hnew
      exact hx who _ List.mem_cons_self
    · exact hw c k f o hold
  · exact hw c k f o (turn_others (f := result?) rfl hresult).2
  · exact hw c k f o (turn_others (f := result?) rfl hresult).2

theorem Measured.storing (hw : w.Measured) {started : Generation} {lines : List DiffLine}
    {now : Seconds} (hphase : w.phase c = .storing key flight started lines now) :
    ∃ size, estimateSize lines = .ok size :=
  hw c key flight (.ok lines) (by rw [hphase]; rfl) lines rfl

theorem Measured.kept (hw : w.Measured) {started : Generation} {lines : List DiffLine}
    {now : Seconds} {e : Unencodable} (hphase : w.phase c = .storing key flight started lines now) :
    estimateSize lines ≠ .error e := by
  obtain ⟨size, hsize⟩ := hw.storing hphase
  rw [hsize]
  exact nofun

theorem Move.others (h : Move w x next) (hx : x.who? ≠ some c) : next.phase c = w.phase c := by
  have hother {who : Caller} {phase : Phase} (hwho : some who ≠ some c) :
      (w.turn who phase).phase c = w.phase c :=
    turn_phase_ne w phase fun hc => hwho (congrArg some hc.symm)
  cases h with
  | tick | contains | invalidate | invalidateAll => rfl
  | get | ask | timeToPeek | peek | timeToLook | find | miss | join | take | timeToCheck | findAgain
  | missAgain | register | start | succeed | fail | timeToStore | store | abandon | withdrawStored
  | withdrawFailed | publish | learn => exact hother hx

theorem busy_of_owns (h : (w.phase c).owns? = some (key, flight)) : w.isFree c = false := by
  apply Bool.eq_false_iff.mpr
  intro hfree
  rw [free_keeps owns? hfree rfl (fun _ => rfl) fun _ => rfl] at h
  cases h

theorem Move.lowers (h : Move w x next) (hx : x.who? = some c)
    (hown : (w.phase c).owns? = some (key, flight)) :
    (next.phase c).movesLeft < (w.phase c).movesLeft := by
  have hbusy {phase : Phase} (hphase : w.phase c = phase) (hnone : phase.owns? = none) :
      (next.phase c).movesLeft < (w.phase c).movesLeft := by
    rw [hphase, hnone] at hown
    cases hown
  cases h with
  | tick | contains | invalidate | invalidateAll => cases hx
  | get hfree | ask hfree =>
    cases hx
    rw [busy_of_owns hown] at hfree
    cases hfree
  | timeToPeek hphase | peek hphase | timeToLook hphase | find hphase | miss hphase | join hphase
  | take hphase | timeToCheck hphase | findAgain hphase | missAgain hphase | register hphase
  | learn hphase =>
    cases hx
    exact hbusy hphase rfl
  | start hphase | succeed hphase | fail hphase | timeToStore hphase | store hphase
  | abandon hphase | withdrawStored hphase | withdrawFailed hphase | publish hphase =>
    cases hx
    simp only [turnWith, turn_phase_self, hphase, movesLeft]
    omega

theorem Move.owner (h : Move w x next) (hmeasured : w.Measured)
    (hown : (w.phase c).owns? = some (key, flight)) :
    (next.phase c).owns? = some (key, flight) ∨
      ∃ outcome, next.outcomes.get? flight = some outcome := by
  obtain ⟨-, -, howns⟩ | ⟨who, k, -, hphase, rfl⟩ | ⟨who, k, f, o, -, hphase, rfl⟩ |
    ⟨who, k, f, started, lines, now, e, -, hphase, hsize, -⟩ := h.owners
  · exact .inl ((howns c).trans hown)
  · have hc : c ≠ who := by
      rintro rfl
      rw [hphase] at hown
      cases hown
    exact .inl ((congrArg owns? (turn_phase_ne w _ hc)).trans hown)
  · by_cases hc : c = who
    · subst hc
      rw [hphase] at hown
      cases hown
      exact .inr ⟨o, Assoc.get?_put_self ..⟩
    · exact .inl ((congrArg owns? (turn_phase_ne w _ hc)).trans hown)
  · exact absurd hsize (hmeasured.kept hphase)

theorem Move.known (h : Move w x next) (hnumbered : w.Numbered)
    (hknown : w.outcomes.get? flight = some outcome) :
    next.outcomes.get? flight = some outcome := by
  obtain ⟨houtcomes, -, -⟩ | ⟨who, k, -, -, rfl⟩ | ⟨who, k, f, o, -, hphase, rfl⟩ |
    ⟨who, k, f, started, lines, now, e, -, -, -, rfl⟩ := h.owners
  · rw [houtcomes]
    exact hknown
  · exact hknown
  · have hf : f ≠ flight := by
      rintro rfl
      rw [hnumbered.unknown who k f (by rw [hphase]; rfl)] at hknown
      cases hknown
    exact (Assoc.get?_put_ne _ _ hf).trans hknown
  · exact hknown

theorem run_cons : w.run (x :: more) = some next ↔
    ∃ second, Move w x second ∧ second.run more = some next := by
  constructor
  · intro h
    obtain ⟨second, hafter, hmore⟩ := Option.bind_eq_some_iff.mp h
    exact ⟨second, after_move hafter, hmore⟩
  · rintro ⟨second, hmove, hmore⟩
    rw [run, hmove.after]
    exact hmore

theorem run_known (hrun : w.run more = some next) (hnumbered : w.Numbered)
    (hknown : w.outcomes.get? flight = some outcome) :
    next.outcomes.get? flight = some outcome := by
  induction more generalizing w with
  | nil => exact Option.some.inj hrun ▸ hknown
  | cons x rest ih =>
    obtain ⟨second, hmove, hrest⟩ := run_cons.mp hrun
    exact ih hrest (hnumbered.move hmove) (hmove.known hnumbered hknown)

theorem run_owner (hrun : w.run more = some next) (hsized : Sized more) (hnumbered : w.Numbered)
    (hmeasured : w.Measured) (hown : (w.phase c).owns? = some (key, flight))
    (hunknown : next.outcomes.get? flight = none) :
    (next.phase c).owns? = some (key, flight) := by
  induction more generalizing w with
  | nil => exact Option.some.inj hrun ▸ hown
  | cons x rest ih =>
    obtain ⟨second, hmove, hrest⟩ := run_cons.mp hrun
    obtain hstill | ⟨outcome, hknown⟩ := hmove.owner hmeasured hown
    · exact ih hrest hsized.tail (hnumbered.move hmove) (hmove.measured hsized.head hmeasured) hstill
    · rw [run_known hrest (hnumbered.move hmove) hknown] at hunknown
      cases hunknown

theorem run_resolves (hrun : w.run more = some next) (hsized : Sized more)
    (hnumbered : w.Numbered) (hmeasured : w.Measured) (hown : (w.phase c).owns? = some (key, flight))
    (hmoves : (w.phase c).movesLeft ≤ movesOf c more) :
    ∃ outcome, next.outcomes.get? flight = some outcome := by
  induction more generalizing w with
  | nil => exact absurd (movesLeft_pos hown) (Nat.not_lt.mpr hmoves)
  | cons x rest ih =>
    obtain ⟨second, hmove, hrest⟩ := run_cons.mp hrun
    obtain hstill | ⟨outcome, hknown⟩ := hmove.owner hmeasured hown
    · apply ih hrest hsized.tail (hnumbered.move hmove) (hmove.measured hsized.head hmeasured) hstill
      rw [movesOf, List.countP_cons] at hmoves
      by_cases hx : x.who? = some c
      · have hlower := hmove.lowers hx hown
        rw [if_pos (decide_eq_true hx)] at hmoves
        exact Nat.le_of_lt_succ (Nat.lt_of_lt_of_le hlower hmoves)
      · rw [hmove.others hx]
        rw [if_neg (by simpa using hx)] at hmoves
        exact hmoves
    · exact ⟨outcome, run_known hrest (hnumbered.move hmove) hknown⟩

theorem run_others (hrun : w.run more = some next) (hmore : ∀ x ∈ more, x.who? ≠ some c) :
    next.phase c = w.phase c := by
  induction more generalizing w with
  | nil => exact Option.some.inj hrun ▸ rfl
  | cons x rest ih =>
    obtain ⟨second, hmove, hrest⟩ := run_cons.mp hrun
    rw [ih hrest fun y hy => hmore y (List.mem_cons_of_mem x hy),
      hmove.others (hmore x List.mem_cons_self)]

/-- The holder of the table of computations can always take a step, after which it is closer to
letting go of the table or has done so. -/
theorem holder_steps (hw : w.Consistent) (hholder : w.holder = some d) :
    ∃ next, Move w (.step d) next ∧ (next.holder = none ∨ next.holder = some d ∧
      (next.phase d).stepsInside < (w.phase d).stepsInside) := by
  have hholds := (hw.holder d).mp hholder
  have hlower {phase : Phase} (h : phase.stepsInside < (w.phase d).stepsInside) :
      ((w.turn d phase).phase d).stepsInside < (w.phase d).stepsInside := by
    rw [turn_phase_self]
    exact h
  cases hphase : w.phase d with
  | holding key =>
    rw [hphase] at hlower
    exact ⟨_, .timeToCheck hphase, .inr ⟨hholder, hlower (Nat.lt_succ_self 3)⟩⟩
  | checking key now =>
    rw [hphase] at hlower
    cases hlookup : (w.cache.lookup false now key).1 with
    | some lines => exact ⟨_, .findAgain hphase hlookup, .inl rfl⟩
    | none =>
      exact ⟨_, .missAgain hphase hlookup, .inr ⟨hholder, hlower (Nat.lt_succ_self 2)⟩⟩
  | alone key =>
    rw [hphase] at hlower
    exact ⟨_, .register hphase, .inr ⟨hholder, hlower (Nat.lt_succ_self 1)⟩⟩
  | registered key flight => exact ⟨_, .start hphase, .inl rfl⟩
  | idle | getting | peeking | got | asking | looking | missed | computing | computed | storing
  | stored | failed | withdrawn | waiting | answered =>
    rw [hphase] at hholds
    cases hholds

theorem holder_releases (hw : w.Consistent) (hholder : w.holder = some d) :
    ∃ more next, (∀ x ∈ more, x = .step d) ∧ w.run more = some next ∧ next.holder = none := by
  induction hleft : (w.phase d).stepsInside using Nat.strongRecOn generalizing w with
  | ind n ih =>
    obtain ⟨second, hmove, hfree | ⟨hstill, hlower⟩⟩ := holder_steps hw hholder
    · exact ⟨[.step d], second, fun x hx => List.mem_singleton.mp hx,
        run_cons.mpr ⟨second, hmove, rfl⟩, hfree⟩
    · obtain ⟨more, next, hmore, hrun, hfree⟩ := ih _ (hleft ▸ hlower) (hw.move hmove) hstill rfl
      refine ⟨.step d :: more, next, ?_, run_cons.mpr ⟨second, hmove, hrun⟩, hfree⟩
      intro x hx
      exact (List.mem_cons.mp hx).elim id (hmore x)

theorem CanResolve.move {second : Callers} (h : CanResolve second c flight outcome)
    (hmove : Move w x second) (hx : x.who? = some c)
    (hholder : second.holder = w.holder ∨ second.holder = none) :
    CanResolve w c flight outcome := by
  obtain ⟨more, next, hmore, hrun, hknown⟩ := h
  refine ⟨x :: more, next, ?_, run_cons.mpr ⟨second, hmove, hrun⟩, hknown⟩
  intro y hy
  obtain rfl | hy := List.mem_cons.mp hy
  · exact ⟨c, hx, .inl rfl⟩
  · obtain ⟨d, hd, hc | hsecond⟩ := hmore y hy
    · exact ⟨d, hd, .inl hc⟩
    · obtain hsame | hnone := hholder
      · exact ⟨d, hd, .inr (hsame ▸ hsecond)⟩
      · rw [hnone] at hsecond
        cases hsecond

theorem canResolve_withdrawn (h : w.phase c = .withdrawn key flight outcome) :
    CanResolve w c flight outcome := by
  refine ⟨[.step c], _, ?_, run_cons.mpr ⟨_, .publish h, rfl⟩, Assoc.get?_put_self ..⟩
  intro x hx
  obtain rfl := List.mem_singleton.mp hx
  exact ⟨c, rfl, .inl rfl⟩

theorem canResolve_withdraw (hw : w.Consistent) (hoff : (w.phase c).holdsTable = false)
    (hwithdraw : ∀ v : Callers, v.phase c = w.phase c → v.holder = none → Move v (.step c)
      (v.turnWith c (.withdrawn key flight outcome, v.cache.unregister key))) :
    CanResolve w c flight outcome := by
  have hfree {v : Callers} (hphase : v.phase c = w.phase c) (hholder : v.holder = none) :
      CanResolve v c flight outcome := by
    refine CanResolve.move ?_ (hwithdraw v hphase hholder) rfl (.inl rfl)
    exact canResolve_withdrawn (turn_phase_self v c _)
  cases hholder : w.holder with
  | none => exact hfree rfl hholder
  | some d =>
    obtain ⟨more, second, hmore, hrun, hsecond⟩ := holder_releases hw hholder
    have hphase : second.phase c = w.phase c := by
      apply run_others hrun
      intro x hx hwho
      rw [hmore x hx] at hwho
      cases hwho
      rw [(hw.holder c).mp hholder] at hoff
      cases hoff
    obtain ⟨rest, next, hrest, hrun', hknown⟩ := hfree hphase hsecond
    refine ⟨more ++ rest, next, ?_, ?_, hknown⟩
    · intro x hx
      obtain hx | hx := List.mem_append.mp hx
      · exact ⟨d, congrArg Happening.who? (hmore x hx), .inr hholder⟩
      · obtain ⟨e, he, rfl | hholds⟩ := hrest x hx
        · exact ⟨e, he, .inl rfl⟩
        · rw [hsecond] at hholds
          cases hholds
    · rw [run_append, hrun]
      exact hrun'

theorem canResolve_stored {lines : List DiffLine} (hw : w.Consistent)
    (hphase : w.phase c = .stored key flight lines) : CanResolve w c flight (.ok lines) :=
  canResolve_withdraw hw (by rw [hphase]; rfl) fun _ hv hfree =>
    .withdrawStored (hv.trans hphase) hfree

theorem canResolve_failed {cause : Fault} (hw : w.Consistent)
    (hphase : w.phase c = .failed key flight cause) : CanResolve w c flight (.error cause) :=
  canResolve_withdraw hw (by rw [hphase]; rfl) fun _ hv hfree =>
    .withdrawFailed (hv.trans hphase) hfree

theorem canResolve_storing {started : Generation} {lines : List DiffLine} {now : Seconds} {size : Nat}
    (hw : w.Consistent) (hphase : w.phase c = .storing key flight started lines now)
    (hsize : estimateSize lines = .ok size) : CanResolve w c flight (.ok lines) := by
  have hmove := Move.store hphase hsize
  exact (canResolve_stored (hw.move hmove) (turn_phase_self w c _)).move hmove rfl (.inl rfl)

theorem canResolve_computed {started : Generation} {lines : List DiffLine} {size : Nat}
    (hw : w.Consistent) (hphase : w.phase c = .computed key flight started lines)
    (hsize : estimateSize lines = .ok size) : CanResolve w c flight (.ok lines) := by
  have hmove := Move.timeToStore hphase
  exact (canResolve_storing (hw.move hmove) (turn_phase_self w c _) hsize).move hmove rfl (.inl rfl)

theorem canResolve_computing {started : Generation} (hw : w.Consistent)
    (hphase : w.phase c = .computing key flight started) (hsize : HasSize outcome) :
    CanResolve w c flight outcome := by
  cases outcome with
  | ok lines =>
    have hmove : Move w (.result c (.ok lines)) _ := .succeed hphase
    obtain ⟨size, hsize⟩ := hsize lines rfl
    exact (canResolve_computed (hw.move hmove) (turn_phase_self w c _) hsize).move hmove rfl
      (.inl rfl)
  | error cause =>
    have hmove : Move w (.result c (.error cause)) _ := .fail hphase
    exact (canResolve_failed (hw.move hmove) (turn_phase_self w c _)).move hmove rfl (.inl rfl)

theorem owner_canResolve (hw : w.Consistent) (hown : (w.phase c).owns? = some (key, flight))
    (hsize : HasSize outcome)
    (hresult : ∀ o, (w.phase c).result? = some (key, flight, o) → o = outcome) :
    CanResolve w c flight outcome := by
  cases hphase : w.phase c with
  | registered k f =>
    rw [hphase] at hown
    cases hown
    have hmove := Move.start hphase
    exact (canResolve_computing (hw.move hmove) (turn_phase_self w c _) hsize).move hmove rfl
      (.inr rfl)
  | computing k f started =>
    rw [hphase] at hown
    cases hown
    exact canResolve_computing hw hphase hsize
  | computed k f started lines =>
    rw [hphase] at hown hresult
    cases hown
    obtain rfl := hresult _ rfl
    obtain ⟨size, hsize⟩ := hsize lines rfl
    exact canResolve_computed hw hphase hsize
  | storing k f started lines now =>
    rw [hphase] at hown hresult
    cases hown
    obtain rfl := hresult _ rfl
    obtain ⟨size, hsize⟩ := hsize lines rfl
    exact canResolve_storing hw hphase hsize
  | stored k f lines =>
    rw [hphase] at hown hresult
    cases hown
    exact hresult _ rfl ▸ canResolve_stored hw hphase
  | failed k f cause =>
    rw [hphase] at hown hresult
    cases hown
    exact hresult _ rfl ▸ canResolve_failed hw hphase
  | withdrawn k f o =>
    rw [hphase] at hown hresult
    cases hown
    exact hresult _ rfl ▸ canResolve_withdrawn hphase
  | idle | getting | peeking | got | asking | looking | missed | holding | checking | alone
  | waiting | answered =>
    rw [hphase] at hown
    cases hown

theorem PublishesAt.concat {i : Nat} (h : PublishesAt first hs i c flight outcome) :
    PublishesAt first (hs ++ [x]) i c flight outcome := by
  obtain ⟨v, key, hoccurs, hphase⟩ := h
  exact ⟨v, key, hoccurs.concat, hphase⟩

theorem publishesAt_concat {i : Nat} (hrun : first.run hs = some w)
    (h : PublishesAt first (hs ++ [x]) i c flight outcome) :
    PublishesAt first hs i c flight outcome ∨
      i = hs.length ∧ x = .step c ∧ ∃ key, w.phase c = .withdrawn key flight outcome := by
  obtain ⟨v, key, hoccurs, hphase⟩ := h
  obtain hold | ⟨hi, hx, hlast⟩ := occurs_concat hoccurs
  · exact .inl ⟨v, key, hold, hphase⟩
  · obtain rfl := Option.some.inj (hlast.symm.trans hrun)
    exact .inr ⟨hi, hx.symm, key, hphase⟩

theorem run_published {limits : Limits} {time : Seconds}
    (hrun : (startAt limits time).run hs = some w) :
    ∀ flight outcome, w.outcomes.get? flight = some outcome ↔
      ∃ i c, PublishesAt (startAt limits time) hs i c flight outcome := by
  refine run_induction (P := fun hs w => ∀ flight outcome,
    w.outcomes.get? flight = some outcome ↔
      ∃ i c, PublishesAt (startAt limits time) hs i c flight outcome) ?_ ?_ hrun
  · intro flight outcome
    constructor
    · intro h
      cases h
    · rintro ⟨i, c, v, key, hoccurs, -⟩
      exact absurd hoccurs.lt (Nat.not_lt_zero i)
  · intro hs w x next hrun ih hmove flight outcome
    constructor
    · intro hknown
      have hbefore (h : w.outcomes.get? flight = some outcome) :
          ∃ i c, PublishesAt (startAt limits time) (hs ++ [x]) i c flight outcome := by
        obtain ⟨i, c, hpublishes⟩ := (ih flight outcome).mp h
        exact ⟨i, c, hpublishes.concat⟩
      obtain ⟨hsame, -, -⟩ | ⟨who, key, -, -, rfl⟩ | ⟨who, key, f, o, rfl, hphase, rfl⟩ |
        ⟨who, key, f, started, lines, now, e, -, -, -, rfl⟩ := hmove.owners
      · exact hbefore (hsame ▸ hknown)
      · exact hbefore hknown
      · by_cases hf : f = flight
        · subst hf
          obtain rfl := Option.some.inj ((Assoc.get?_put_self ..).symm.trans hknown)
          exact ⟨hs.length, who, w, key, occurs_last hrun, hphase⟩
        · exact hbefore ((Assoc.get?_put_ne _ _ hf).symm.trans hknown)
      · exact hbefore hknown
    · rintro ⟨i, c, hpublishes⟩
      obtain hold | ⟨-, rfl, key, hphase⟩ := publishesAt_concat hrun hpublishes
      · exact hmove.known (run_numbered hrun) ((ih flight outcome).mpr ⟨i, c, hold⟩)
      · obtain rfl := Option.some.inj (hmove.after.symm.trans (Move.publish hphase).after)
        exact Assoc.get?_put_self ..

theorem published_once {limits : Limits} {time : Seconds}
    (hrun : (startAt limits time).run hs = some w) :
    ∀ i j c d flight outcome outcome',
      PublishesAt (startAt limits time) hs i c flight outcome →
      PublishesAt (startAt limits time) hs j d flight outcome' → i = j := by
  refine run_induction (P := fun hs _ => ∀ i j c d flight outcome outcome',
    PublishesAt (startAt limits time) hs i c flight outcome →
    PublishesAt (startAt limits time) hs j d flight outcome' → i = j) ?_ ?_ hrun
  · rintro i _ _ _ _ _ _ ⟨v, key, hoccurs, -⟩
    exact absurd hoccurs.lt (Nat.not_lt_zero i)
  · intro hs w x next hrun ih _ i j c d flight outcome outcome' hc hd
    -- whoever is about to resolve a flight finds it unresolved
    have hfirst {i : Nat} {c d : Caller} {key : CacheKey} {o : Except Fault (List DiffLine)}
        (hold : PublishesAt (startAt limits time) hs i c flight o)
        (hown : (w.phase d).owns? = some (key, flight)) : False := by
      have hknown := (run_published hrun flight o).mpr ⟨i, c, hold⟩
      rw [(run_numbered hrun).unknown d key flight hown] at hknown
      cases hknown
    obtain hoc | ⟨hi, -, key, hphase⟩ := publishesAt_concat hrun hc
    · obtain hod | ⟨-, -, key, hphase⟩ := publishesAt_concat hrun hd
      · exact ih i j c d flight outcome outcome' hoc hod
      · exact (hfirst hoc (by rw [hphase]; rfl)).elim
    · obtain hod | ⟨hj, -, -⟩ := publishesAt_concat hrun hd
      · exact (hfirst hod (by rw [hphase]; rfl)).elim
      · exact hi.trans hj.symm

/-- A flight is going to be resolved by its owner, as long as computations come to lines that have
a size. -/
structure Resolves (w : Callers) (leader : Caller) (key : CacheKey) (flight : Flight) : Prop where
  /-- The leader is in the middle of its call. -/
  busy : w.isFree leader = false
  /-- However it goes on, the leader owns the flight until it is resolved. -/
  stays : ∀ more next, w.run more = some next → Sized more → next.outcomes.get? flight = none →
    (next.phase leader).owns? = some (key, flight)
  /-- What the computation came to, or anything that it may come to, the leader can make known by
  its own moves and those of whoever holds the table of computations. -/
  able : ∀ outcome, HasSize outcome →
    (∀ o, (w.phase leader).result? = some (key, flight, o) → o = outcome) →
    CanResolve w leader flight outcome
  /-- A leader that goes on resolves the flight, whatever else happens. -/
  bounded : ∀ more next, w.run more = some next → Sized more →
    (w.phase leader).movesLeft ≤ movesOf leader more →
    ∃ outcome, next.outcomes.get? flight = some outcome

/-- No caller waits in vain and no key stays in the table of computations. -/
structure NoOrphans (first : Callers) (hs : List Happening) (w : Callers) : Prop where
  /-- A key in the table has exactly one leader, who registered it and has not taken it out. -/
  led : ∀ key flight, w.cache.inFlight.get? key = some flight →
    ∃ leader, (w.phase leader).leads? = some (key, flight) ∧ w.isFree leader = false ∧
      (∃ i, RegistersAt first hs i leader key flight) ∧
      ∀ c flight', (w.phase c).leads? = some (key, flight') → c = leader
  /-- The flight that a caller waits for is resolved or is going to be. -/
  attended : ∀ c flight, w.phase c = .waiting flight →
    (∃ outcome, w.outcomes.get? flight = some outcome) ∨
      ∃ leader key, (w.phase leader).owns? = some (key, flight) ∧ Resolves w leader key flight
  /-- A flight is resolved at most once, and its outcome is known from then on. -/
  once : ∀ i j c d flight outcome outcome', PublishesAt first hs i c flight outcome →
    PublishesAt first hs j d flight outcome' → i = j
  known : ∀ flight outcome, w.outcomes.get? flight = some outcome ↔
    ∃ i c, PublishesAt first hs i c flight outcome
  /-- When nobody is in the middle of a call, the table is empty. -/
  empty : (∀ c, w.isFree c = true) → w.cache.inFlight = []

theorem run_measured {limits : Limits} {time : Seconds}
    (hrun : (startAt limits time).run hs = some w) (hsized : Sized hs) : w.Measured := by
  intro c key flight outcome hresult
  obtain ⟨i, v, started, ⟨hx, -⟩, -⟩ := (run_reported hrun).ended c key flight outcome hresult
  exact hsized c outcome (List.mem_of_getElem? hx)

theorem not_leftBehind {limits : Limits} {time : Seconds} (hsized : Sized hs) :
    ¬ LeftBehind (startAt limits time) hs key flight := by
  rintro ⟨i, leader, lines, e, habandons⟩
  obtain ⟨⟨j, v, started, ⟨hx, -⟩, -⟩, -⟩ := habandons.gets
  obtain ⟨-, -, -, -, -, hunsized⟩ := habandons
  obtain ⟨size, hsize⟩ := hsized leader _ (List.mem_of_getElem? hx) lines rfl
  rw [hsize] at hunsized
  cases hunsized

theorem owner_resolves {limits : Limits} {time : Seconds}
    (hrun : (startAt limits time).run hs = some w) (hsized : Sized hs)
    (hown : (w.phase leader).owns? = some (key, flight)) : Resolves w leader key flight where
  busy := busy_of_owns hown
  stays _ _ hmore hsizes :=
    run_owner hmore hsizes (run_numbered hrun) (run_measured hrun hsized) hown
  able _ := owner_canResolve (run_consistent hrun) hown
  bounded _ _ hmore hsizes :=
    run_resolves hmore hsizes (run_numbered hrun) (run_measured hrun hsized) hown

end Callers

end ReviewDiff
