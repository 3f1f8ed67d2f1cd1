import ReviewDiff.Proofs.Cache.Flight

/-!
# Single flight

However the steps of callers come, a key is computed by one caller at a time, a computation begins
only when nothing is kept for its key, and whoever joined a computation gets what it came to. The
exception is a result without a size: its leader gets an error of its own, and whoever joined, or
still joins, waits for ever.
-/

set_option autoImplicit false

namespace ReviewDiff.Callers

open DiffCache Phase

variable {first w next : Callers} {hs : List Happening} {x : Happening} {who c leader : Caller}
  {key : CacheKey} {flight : Flight} {outcome : Except Fault (List DiffLine)}

theorem RegistersAt.concat {i : Nat} (h : RegistersAt first hs i c key flight) :
    RegistersAt first (hs ++ [x]) i c key flight := by
  obtain ⟨v, hoccurs, hphase, hflight⟩ := h
  exact ⟨v, hoccurs.concat, hphase, hflight⟩

theorem owner_registered {limits : Limits} {time : Seconds}
    (hrun : (startAt limits time).run hs = some w) :
    ∀ c key flight, (w.phase c).owns? = some (key, flight) →
      ∃ i, RegistersAt (startAt limits time) hs i c key flight := by
  refine run_induction (P := fun hs w => ∀ c key flight, (w.phase c).owns? = some (key, flight) →
    ∃ i, RegistersAt (startAt limits time) hs i c key flight) ?_ ?_ hrun
  · exact fun _ _ _ h => by cases h
  · intro hs w x next hrun ih hmove c key flight h
    have hold (hown : (w.phase c).owns? = some (key, flight)) :
        ∃ i, RegistersAt (startAt limits time) (hs ++ [x]) i c key flight := by
      obtain ⟨i, hi⟩ := ih c key flight hown
      exact ⟨i, hi.concat⟩
    obtain ⟨-, -, howns⟩ | ⟨who, k, rfl, hphase, rfl⟩ | ⟨who, k, f, o, -, -, rfl⟩ |
      ⟨who, k, f, started, lines, now, e, -, -, -, rfl⟩ := hmove.owners
    · exact hold (howns c ▸ h)
    · obtain ⟨rfl, hself⟩ | ⟨-, hown⟩ := turn_some h
      · cases hself
        exact ⟨hs.length, w, occurs_last hrun, hphase, rfl⟩
      · exact hold hown
    · exact hold (turn_others (f := owns?) rfl h).2
    · exact hold (turn_others (f := owns?) rfl h).2

theorem JoinsAt.concat {i : Nat} (h : JoinsAt first hs i c leader key flight) :
    JoinsAt first (hs ++ [x]) i c leader key flight := by
  obtain ⟨v, hoccurs, hphase, hflight, hleads⟩ := h
  exact ⟨v, hoccurs.concat, hphase, hflight, hleads⟩

theorem JoinsAt.lt {i : Nat} (h : JoinsAt first hs i c leader key flight) : i < hs.length := by
  obtain ⟨v, hoccurs, -⟩ := h
  exact hoccurs.lt

theorem turn_waiting {phase : Phase} (hphase : ∀ flight, phase ≠ .waiting flight)
    (h : (w.turn who phase).phase c = .waiting flight) : w.phase c = .waiting flight := by
  by_cases hc : c = who
  · rw [hc, turn_phase_self] at h
    exact absurd h (hphase flight)
  · exact turn_phase_ne w phase hc ▸ h

theorem Move.waits (h : Move w x next) (hwaits : next.phase c = .waiting flight) :
    w.phase c = .waiting flight ∨
      x = .step c ∧ ∃ key, w.phase c = .missed key ∧ w.cache.inFlight.get? key = some flight := by
  cases h with
  | tick | contains | invalidate | invalidateAll => exact .inl hwaits
  | @join who key joined hphase _ hfound =>
    by_cases hc : c = who
    · subst hc
      rw [turn_phase_self] at hwaits
      cases hwaits
      exact .inr ⟨rfl, key, hphase, hfound⟩
    · exact .inl (turn_phase_ne w _ hc ▸ hwaits)
  | get | ask | timeToPeek | peek | timeToLook | find | miss | take | timeToCheck | findAgain
  | missAgain | register | start | succeed | fail | timeToStore | store | abandon | withdrawStored
  | withdrawFailed | publish | learn =>
    exact .inl (turn_waiting (fun _ => Phase.noConfusion) hwaits)

def Pending (first : Callers) (hs : List Happening) (w : Callers) (leader : Caller)
    (key : CacheKey) (flight : Flight) : Prop :=
  (w.phase leader).owns? = some (key, flight) ∨
    ∃ j outcome, EndsAt first hs j leader key flight outcome ∧
      w.outcomes.get? flight = some outcome

theorem Pending.move (hrun : first.run hs = some w) (hnumbered : w.Numbered)
    (hreported : Reported first hs w) (hmove : Move w x next)
    (h : Pending first hs w leader key flight) :
    Pending first (hs ++ [x]) next leader key flight ∨ LeftBehind first (hs ++ [x]) key flight := by
  obtain ⟨houtcomes, -, howns⟩ | ⟨who, k, -, hphase, rfl⟩ | ⟨who, k, f, o, -, hphase, rfl⟩ |
    ⟨who, k, f, started, lines, now, e, rfl, hphase, hsize, rfl⟩ := hmove.owners
  · obtain hown | ⟨j, outcome, hends, hknown⟩ := h
    · exact .inl (.inl ((howns leader).trans hown))
    · exact .inl (.inr ⟨j, outcome, hends.concat, houtcomes ▸ hknown⟩)
  · obtain hown | ⟨j, outcome, hends, hknown⟩ := h
    · have hne : leader ≠ who := by
        rintro rfl
        rw [hphase] at hown
        cases hown
      exact .inl (.inl ((congrArg owns? (turn_phase_ne w _ hne)).trans hown))
    · exact .inl (.inr ⟨j, outcome, hends.concat, hknown⟩)
  · have hpublished : (w.phase who).owns? = some (k, f) := by rw [hphase]; rfl
    obtain hown | ⟨j, outcome, hends, hknown⟩ := h
    · by_cases hne : leader = who
      · subst hne
        obtain ⟨rfl, rfl⟩ := Prod.mk.inj (Option.some.inj (hpublished.symm.trans hown))
        obtain ⟨j, hends⟩ := hreported.ended leader k f o (by rw [hphase]; rfl)
        exact .inl (.inr ⟨j, o, hends.concat, Assoc.get?_put_self ..⟩)
      · exact .inl (.inl ((congrArg owns? (turn_phase_ne w _ hne)).trans hown))
    · have hf : f ≠ flight := by
        rintro rfl
        rw [hnumbered.unknown who k f hpublished] at hknown
        cases hknown
      exact .inl (.inr ⟨j, outcome, hends.concat, (Assoc.get?_put_ne _ _ hf).trans hknown⟩)
  · obtain hown | ⟨j, outcome, hends, hknown⟩ := h
    · by_cases hne : leader = who
      · subst hne
        rw [hphase] at hown
        cases hown
        exact .inr ⟨hs.length, leader, lines, e, w, started, now, occurs_last hrun, hphase, hsize⟩
      · exact .inl (.inl ((congrArg owns? (turn_phase_ne w _ hne)).trans hown))
    · exact .inl (.inr ⟨j, outcome, hends.concat, hknown⟩)

theorem waiting_pending {limits : Limits} {time : Seconds}
    (hrun : (startAt limits time).run hs = some w) :
    ∀ c flight, w.phase c = .waiting flight →
      (∃ i leader key, JoinsAt (startAt limits time) hs i c leader key flight ∧
        Pending (startAt limits time) hs w leader key flight) ∨
      ∃ key, LeftBehind (startAt limits time) hs key flight := by
  refine run_induction (P := fun hs w => ∀ c flight, w.phase c = .waiting flight →
    (∃ i leader key, JoinsAt (startAt limits time) hs i c leader key flight ∧
      Pending (startAt limits time) hs w leader key flight) ∨
    ∃ key, LeftBehind (startAt limits time) hs key flight) ?_ ?_ hrun
  · exact fun _ _ h => by cases h
  · intro hs w x next hrun ih hmove c flight h
    have hgoes {i : Nat} {leader : Caller} {key : CacheKey}
        (hjoins : JoinsAt (startAt limits time) (hs ++ [x]) i c leader key flight)
        (hpending : Pending (startAt limits time) hs w leader key flight) :
        (∃ i leader key, JoinsAt (startAt limits time) (hs ++ [x]) i c leader key flight ∧
          Pending (startAt limits time) (hs ++ [x]) next leader key flight) ∨
        ∃ key, LeftBehind (startAt limits time) (hs ++ [x]) key flight :=
      (hpending.move hrun (run_numbered hrun) (run_reported hrun) hmove).imp
        (fun hstill => ⟨i, leader, key, hjoins, hstill⟩) fun hbehind => ⟨key, hbehind⟩
    obtain hwaited | ⟨rfl, key, hphase, hfound⟩ := hmove.waits h
    · obtain ⟨i, leader, key, hjoins, hleader⟩ | ⟨key, hbehind⟩ := ih c flight hwaited
      · exact hgoes hjoins.concat hleader
      · exact .inr ⟨key, hbehind.concat⟩
    · obtain ⟨leader, hleads⟩ | hbehind := run_led hrun key flight hfound
      · exact hgoes ⟨w, occurs_last hrun, hphase, hfound, hleads⟩ (.inl (owns_of_leads hleads))
      · exact .inr ⟨key, hbehind.concat⟩

theorem step_waiting (h : w.phase c = .waiting flight) :
    w.after (.step c) = (w.outcomes.get? flight).map fun outcome =>
      w.turn c (.answered (sharedBy outcome)) := by
  rw [after, step, h]

theorem Move.waiting (h : Move w x next) (hwaits : w.phase c = .waiting flight) :
    next.phase c = .waiting flight ∨ x = .step c ∧ ∃ outcome,
      w.outcomes.get? flight = some outcome ∧ next.phase c = .answered (sharedBy outcome) := by
  have hother {who : Caller} {phase : Phase} (hphase : w.phase who ≠ .waiting flight) :
      (w.turn who phase).phase c = .waiting flight := by
    have hc : c ≠ who := by
      rintro rfl
      exact hphase hwaits
    rw [turn_phase_ne w phase hc, hwaits]
  have hbusy {who : Caller} (hfree : w.isFree who = true) : w.phase who ≠ .waiting flight := by
    intro hphase
    rw [isFree, hphase] at hfree
    cases hfree
  cases h with
  | tick | contains | invalidate | invalidateAll => exact .inl hwaits
  | get hfree => exact .inl (hother (hbusy hfree))
  | ask hfree => exact .inl (hother (hbusy hfree))
  | @learn who joined outcome hphase hknown =>
    by_cases hc : c = who
    · subst hc
      obtain rfl := Phase.waiting.inj (hphase.symm.trans hwaits)
      exact .inr ⟨rfl, outcome, hknown, turn_phase_self w c _⟩
    · exact .inl ((turn_phase_ne w _ hc).trans hwaits)
  | timeToPeek hphase | peek hphase | timeToLook hphase | find hphase | miss hphase | join hphase
  | take hphase | timeToCheck hphase | findAgain hphase | missAgain hphase | register hphase
  | start hphase | succeed hphase | fail hphase | timeToStore hphase | store hphase
  | abandon hphase | withdrawStored hphase | withdrawFailed hphase | publish hphase =>
    exact .inl (hother (by rw [hphase]; exact Phase.noConfusion))

/-- At a moment of a run a caller gets a share of what the computation of a leader came to. -/
def LearnsAt (first : Callers) (hs : List Happening) (i : Nat) (joiner leader : Caller)
    (key : CacheKey) (flight : Flight) : Prop :=
  ∃ w next j outcome, Occurs first hs i (.step joiner) w ∧ w.after (.step joiner) = some next ∧
    EndsAt first hs j leader key flight outcome ∧
    next.phase joiner = .answered (sharedBy outcome)

theorem LearnsAt.concat {i : Nat} (h : LearnsAt first hs i c leader key flight) :
    LearnsAt first (hs ++ [x]) i c leader key flight := by
  obtain ⟨w, next, j, outcome, hoccurs, hstep, hends, hphase⟩ := h
  exact ⟨w, next, j, outcome, hoccurs.concat, hstep, hends.concat, hphase⟩

theorem joinsAt_concat {i : Nat} (hrun : first.run hs = some w)
    (h : JoinsAt first (hs ++ [x]) i c leader key flight) :
    JoinsAt first hs i c leader key flight ∨ i = hs.length ∧ x = .step c ∧
      w.phase c = .missed key ∧ w.cache.inFlight.get? key = some flight ∧
        (w.phase leader).leads? = some (key, flight) := by
  obtain ⟨v, hoccurs, hphase, hfound, hleads⟩ := h
  obtain hold | ⟨hi, hx, hlast⟩ := occurs_concat hoccurs
  · exact .inl ⟨v, hold, hphase, hfound, hleads⟩
  · obtain rfl := Option.some.inj (hlast.symm.trans hrun)
    exact .inr ⟨hi, hx.symm, hphase, hfound, hleads⟩

theorem Move.joins (h : Move w (.step c) next) (hphase : w.phase c = .missed key)
    (hfound : w.cache.inFlight.get? key = some flight) : next.phase c = .waiting flight := by
  have habsurd {phase : Phase} (hother : w.phase c = phase) (hne : phase ≠ .missed key) :
      next.phase c = .waiting flight := absurd (hother.symm.trans hphase) hne
  cases h with
  | join hmissed _ hjoined =>
    obtain rfl := Phase.missed.inj (hmissed.symm.trans hphase)
    rw [turn_phase_self, Option.some.inj (hjoined.symm.trans hfound)]
  | take hmissed _ habsent =>
    obtain rfl := Phase.missed.inj (hmissed.symm.trans hphase)
    cases habsent.symm.trans hfound
  | timeToPeek hother | peek hother | timeToLook hother | find hother | miss hother
  | timeToCheck hother | findAgain hother | missAgain hother | register hother | start hother
  | timeToStore hother | store hother | abandon hother | withdrawStored hother
  | withdrawFailed hother | publish hother | learn hother => exact habsurd hother Phase.noConfusion

theorem joined_learns {limits : Limits} {time : Seconds}
    (hrun : (startAt limits time).run hs = some w) :
    ∀ i c leader key flight, JoinsAt (startAt limits time) hs i c leader key flight →
      w.phase c = .waiting flight ∧ (Pending (startAt limits time) hs w leader key flight ∨
        LeftBehind (startAt limits time) hs key flight) ∨
      ∃ j, i < j ∧ LearnsAt (startAt limits time) hs j c leader key flight := by
  refine run_induction (P := fun hs w => ∀ i c leader key flight,
    JoinsAt (startAt limits time) hs i c leader key flight →
      w.phase c = .waiting flight ∧ (Pending (startAt limits time) hs w leader key flight ∨
        LeftBehind (startAt limits time) hs key flight) ∨
      ∃ j, i < j ∧ LearnsAt (startAt limits time) hs j c leader key flight) ?_ ?_ hrun
  · rintro i c leader key flight ⟨v, hoccurs, -⟩
    exact absurd hoccurs.lt (Nat.not_lt_zero i)
  · intro hs w x next hrun ih hmove i c leader key flight h
    have hnumbered := run_numbered hrun
    have hgoes (hpending : Pending (startAt limits time) hs w leader key flight) :
        Pending (startAt limits time) (hs ++ [x]) next leader key flight ∨
          LeftBehind (startAt limits time) (hs ++ [x]) key flight :=
      hpending.move hrun hnumbered (run_reported hrun) hmove
    obtain hold | ⟨rfl, rfl, hphase, hfound, hleads⟩ := joinsAt_concat hrun h
    · obtain ⟨hwaits, hleader⟩ | ⟨j, hij, hlearns⟩ := ih i c leader key flight hold
      · obtain hstays | ⟨rfl, outcome, hknown, -⟩ := hmove.waiting hwaits
        · exact .inl ⟨hstays, hleader.elim hgoes fun hbehind => .inr hbehind.concat⟩
        · obtain (hown | ⟨j, outcome', hends, hknown'⟩) | hbehind := hleader
          · rw [hnumbered.unknown leader key flight hown] at hknown
            cases hknown
          · obtain rfl := Option.some.inj (hknown'.symm.trans hknown)
            refine .inr ⟨hs.length, hold.lt, w, _, j, outcome', occurs_last hrun, ?_, hends.concat,
              turn_phase_self w c _⟩
            rw [step_waiting hwaits, hknown]
            rfl
          · rw [(run_orphaned hrun key flight hbehind).unknown] at hknown
            cases hknown
      · exact .inr ⟨j, hij, hlearns.concat⟩
    · exact .inl ⟨hmove.joins hphase hfound, hgoes (.inl (owns_of_leads hleads))⟩

def GetsAt (first : Callers) (hs : List Happening) (i : Nat) (who : Caller)
    (outcome : Except Fault (List DiffLine)) : Prop :=
  ∃ w next, Occurs first hs i (.step who) w ∧ w.after (.step who) = some next ∧
    next.phase who = .answered outcome

theorem GetsAt.concat {i : Nat} {outcome : Except Fault (List DiffLine)}
    (h : GetsAt first hs i who outcome) : GetsAt first (hs ++ [x]) i who outcome := by
  obtain ⟨v, after, hoccurs, hstep, hphase⟩ := h
  exact ⟨v, after, hoccurs.concat, hstep, hphase⟩

theorem AbandonsAt.gets {limits : Limits} {time : Seconds} {i : Nat} {lines : List DiffLine}
    {e : Unencodable} (h : AbandonsAt (startAt limits time) hs i leader key flight lines e) :
    (∃ j, EndsAt (startAt limits time) hs j leader key flight (.ok lines)) ∧
      GetsAt (startAt limits time) hs i leader (.error (.unsized e)) := by
  obtain ⟨v, started, now, hoccurs, hphase, hsize⟩ := h
  obtain ⟨j, u, started', ⟨hx, hu⟩, hcomputing⟩ :=
    (run_reported hoccurs.2).ended leader key flight (.ok lines) (by rw [hphase]; rfl)
  have hlt : j < i := by
    have hj := (List.getElem?_eq_some_iff.mp hx).1
    exact Nat.lt_of_lt_of_le hj (List.length_take_le ..)
  rw [List.getElem?_take_of_lt hlt] at hx
  rw [List.take_take, Nat.min_eq_left (Nat.le_of_lt hlt)] at hu
  exact ⟨⟨j, u, started', ⟨hx, hu⟩, hcomputing⟩, v, _, hoccurs, (Move.abandon hphase hsize).after,
    turn_phase_self v leader _⟩

theorem Orphaned.stuck (h : Orphaned w key flight) (hwaits : w.phase c = .waiting flight) :
    w.after (.step c) = none := by
  rw [step_waiting hwaits, h.unknown]
  rfl

theorem Orphaned.waits (hw : w.Consistent) (h : Orphaned w key flight)
    (hwaits : w.phase c = .waiting flight) {more : List Happening}
    (hmore : w.run more = some next) :
    next.phase c = .waiting flight ∧ next.after (.step c) = none := by
  have hstays : next.phase c = .waiting flight := by
    refine run_induction (P := fun _ v => v.phase c = .waiting flight) hwaits ?_ hmore
    intro hs v x next hrun hphase hmove
    obtain hstays | ⟨-, outcome, hknown, -⟩ := hmove.waiting hphase
    · exact hstays
    · rw [(h.run hw hrun).unknown] at hknown
      cases hknown
  exact ⟨hstays, (h.run hw hmore).stuck hstays⟩

/-- What single flight means at a moment of a run. -/
structure SingleFlight (first : Callers) (hs : List Happening) (w : Callers) : Prop where
  /-- From before its computation to behind it, a key has one leader. -/
  exclusive : ∀ c d key flight flight', (w.phase c).leads? = some (key, flight) →
    (w.phase d).leads? = some (key, flight') → c = d
  /-- A leader who computes registered the key when nothing was kept for it that is served, whatever
  the time. -/
  unkept : ∀ c key flight started, w.phase c = .computing key flight started →
    ∃ i v, Occurs first hs i (.step c) v ∧ v.phase c = .alone key ∧
      v.cache.nextFlight = flight ∧ ∀ now, v.cache.contains now key = false
  /-- Whoever joined a leader waits for it or learned later what its computation came to. -/
  joined : ∀ i c leader key flight, JoinsAt first hs i c leader key flight →
    w.phase c = .waiting flight ∨ ∃ j, i < j ∧ LearnsAt first hs j c leader key flight
  /-- Whoever waits joined a leader. It has to wait as long as the leader owns the flight, and then
  it gets what the computation of this leader came to, unless that has no size. -/
  shared : ∀ c flight, w.phase c = .waiting flight →
    (∃ i leader key, JoinsAt first hs i c leader key flight ∧
      ((w.phase leader).owns? = some (key, flight) ∧ w.after (.step c) = none ∨
        ∃ j outcome next, EndsAt first hs j leader key flight outcome ∧
          w.after (.step c) = some next ∧ next.phase c = .answered (sharedBy outcome))) ∨
    ∃ i leader key lines e, AbandonsAt first hs i leader key flight lines e
  /-- A leader whose result has no size gets the error. From then on its key is in progress and has
  no entry, and everyone who waits for the flight waits for ever. -/
  abandoned : ∀ i leader key flight lines e, AbandonsAt first hs i leader key flight lines e →
    (∃ j, EndsAt first hs j leader key flight (.ok lines)) ∧
      GetsAt first hs i leader (.error (.unsized e)) ∧
      ∀ more next, w.run more = some next →
        next.cache.inFlight.get? key = some flight ∧ next.cache.find? key = none ∧
        ∀ c, next.phase c = .waiting flight → ∀ more' later, next.run more' = some later →
          later.phase c = .waiting flight ∧ later.after (.step c) = none
  /-- A leader itself gets what its computation came to, too. -/
  own : ∀ leader key flight outcome, w.phase leader = .withdrawn key flight outcome →
    ∃ j next, EndsAt first hs j leader key flight outcome ∧
      w.after (.step leader) = some next ∧ next.phase leader = .answered (leaderShare outcome)
  /-- A flight has one leader and comes to one outcome. -/
  once : ∀ i j c d key key' flight outcome outcome', EndsAt first hs i c key flight outcome →
    EndsAt first hs j d key' flight outcome' → c = d ∧ key = key' ∧ outcome = outcome'

theorem step_withdrawn (h : w.phase c = .withdrawn key flight outcome) :
    w.after (.step c) = some { w.turn c (.answered (leaderShare outcome)) with
      outcomes := w.outcomes.put flight outcome } := by
  rw [after, step, h]

end ReviewDiff.Callers
