import ReviewDiff.Proofs.Cache.Storage
import ReviewDiff.Proofs.Cache.Waiters

/-!
# A failed computation leaves no trace

A leader whose computation comes to a fault lets go of its key and stores nothing. From its lookups
on it leaves the table of entries alone, so all that is left of it is what those who joined learn.
The next call for the key computes again, and its result is stored as in any other table like this
one.
-/

set_option autoImplicit false

namespace ReviewDiff

namespace DiffCache

def SameTable (a b : DiffCache) : Prop :=
  a = { b with inFlight := a.inFlight, nextFlight := a.nextFlight }

variable {a b : DiffCache}

theorem SameTable.trans {c : DiffCache} (hab : a.SameTable b) (hbc : b.SameTable c) :
    a.SameTable c := by
  rw [SameTable] at *
  rw [hab, hbc]

theorem sameTable_register (key : CacheKey) (c : DiffCache) : (c.register key).2.SameTable c := rfl

theorem sameTable_unregister (key : CacheKey) (c : DiffCache) : (c.unregister key).SameTable c :=
  rfl

theorem SameTable.countMiss (h : a.SameTable b) (counted : Bool) :
    (a.countMiss counted).SameTable (b.countMiss counted) := by
  rw [countMiss_eq, countMiss_eq, h]
  rfl

theorem SameTable.store (h : a.SameTable b) (key : CacheKey) (lines : List DiffLine)
    (started : Generation) (now : Seconds) :
    (a.store key lines started now).2.SameTable (b.store key lines started now).2 := by
  have hgeneration : a.generationOf key = b.generationOf key := by
    rw [h]
    rfl
  have hlimits : a.limits = b.limits := by
    rw [h]
  rw [DiffCache.store, DiffCache.store, hgeneration, hlimits]
  split
  · exact h
  split
  · exact h
  split
  · exact h
  · rw [h]
    rfl

end DiffCache

namespace Phase

def unrewarded : Phase → Bool
  | .alone _ => true
  | .registered _ _ => true
  | .computing _ _ _ => true
  | .failed _ _ _ => true
  | .withdrawn _ _ (.error _) => true
  | _ => false

def seeks? : Phase → Option CacheKey
  | .asking key => some key
  | .looking key _ => some key
  | .missed key => some key
  | phase => phase.enters?

end Phase

namespace Callers

open DiffCache Phase

variable {first w next : Callers} {hs : List Happening} {x : Happening} {who c leader : Caller}
  {key : CacheKey} {flight : Flight} {started : Generation} {lines : List DiffLine} {cause : Fault}
  {limits : Limits} {time : Seconds}

theorem Move.spares (h : Move w x next) (hx : x.who? = some c)
    (hphase : (w.phase c).unrewarded = true) : next.cache.SameTable w.cache := by
  have hfree (hfree : w.isFree c = true) : next.cache.SameTable w.cache := by
    rw [free_keeps unrewarded hfree rfl (fun _ => rfl) fun _ => rfl] at hphase
    cases hphase
  have hother {phase : Phase} (hsame : w.phase c = phase) (hnot : phase.unrewarded = false) :
      next.cache.SameTable w.cache := by
    rw [hsame, hnot] at hphase
    cases hphase
  cases h with
  | tick | contains | invalidate | invalidateAll => cases hx
  | get hcaller | ask hcaller =>
    cases hx
    exact hfree hcaller
  | register => exact sameTable_register ..
  | withdrawFailed | withdrawStored => exact sameTable_unregister ..
  | start | succeed | fail | publish | timeToPeek | timeToLook | join | take | timeToCheck
  | timeToStore | abandon | learn => rfl
  | peek hsame | find hsame | miss hsame | findAgain hsame | missAgain hsame | store hsame =>
    cases hx
    exact hother hsame rfl

theorem operation_register (h : w.operation x = .register key) :
    ∃ who, x = .step who ∧ w.phase who = .alone key := by
  cases x with
  | step who =>
    rw [operation] at h
    split at h <;> cases h
    exact ⟨who, rfl, ‹_›⟩
  | tick | get | ask | result | contains | invalidate | invalidateAll => cases h

theorem apply_absent_flight {cache : DiffCache} {operation : Operation}
    (h : cache.inFlight.get? key = none) (hregister : operation ≠ .register key) :
    (cache.apply operation).inFlight.get? key = none := by
  cases operation with
  | register other =>
    have hne : other ≠ key := fun hsame => hregister (congrArg Operation.register hsame)
    exact (Assoc.get?_put_ne _ _ hne).trans h
  | unregister other =>
    by_cases hother : other = key
    · rw [hother]
      exact Assoc.get?_remove_self ..
    · exact (Assoc.get?_remove_ne _ hother).trans h
  | nothing | lookup | store | invalidate | invalidateAll =>
    rw [(apply_inFlight rfl).1]
    exact h

theorem Move.steps (h : Move w x next) (hx : x.who? = some c)
    {outcome : Except Fault (List DiffLine)}
    (hresult : (w.phase c).result? = some (key, flight, outcome)) : x = .step c := by
  cases h with
  | tick | contains | invalidate | invalidateAll => cases hx
  | get hfree | ask hfree =>
    cases hx
    rw [free_keeps result? hfree rfl (fun _ => rfl) fun _ => rfl] at hresult
    cases hresult
  | succeed hphase | fail hphase =>
    cases hx
    rw [hphase] at hresult
    cases hresult
  | timeToPeek | peek | timeToLook | find | miss | join | take | timeToCheck | findAgain
  | missAgain | register | start | timeToStore | store | abandon | withdrawStored | withdrawFailed
  | publish | learn =>
    cases hx
    rfl

theorem result_failed (h : w.phase c = .computing key flight started)
    (hafter : w.after (.result c (.error cause)) = some next) :
    next = w.turn c (.failed key flight cause) :=
  Option.some.inj (hafter.symm.trans (Move.fail h).after)

theorem step_failed (h : w.phase c = .failed key flight cause)
    (hafter : w.after (.step c) = some next) :
    next = w.turnWith c (.withdrawn key flight (.error cause), w.cache.unregister key) := by
  simp only [after, step, h] at hafter
  exact (withdraw_some hafter).2

structure Vacant (w : Callers) (leader : Caller) (key : CacheKey) (flight : Flight)
    (cause : Fault) : Prop where
  bare : w.cache.find? key = none
  idle : w.phase leader = .failed key flight cause ∨ w.cache.inFlight.get? key = none

namespace Vacant

theorem single (h : Vacant w leader key flight cause) (hw : w.Consistent) {flight' : Flight}
    (hleads : (w.phase c).leads? = some (key, flight')) : w.phase c = .failed key flight cause := by
  rcases h.idle with hfailed | habsent
  · rw [hw.single c leader key flight' flight hleads (by rw [hfailed]; rfl), hfailed]
  · rw [hw.inFlight c key flight' hleads] at habsent
    cases habsent

theorem move (h : Vacant w leader key flight cause) (hw : w.Consistent) (hmove : Move w x next)
    (hregister : w.operation x ≠ .register key) : Vacant next leader key flight cause where
  bare := by
    rw [hmove.cache]
    apply apply_absent h.bare
    intro lines hstores
    obtain ⟨who, flight', started, now, -, hstoring⟩ := operation_stores hstores
    have hleads : (w.phase who).leads? = some (key, flight') := by
      rw [hstoring]
      rfl
    have hfailed := h.single hw hleads
    rw [hstoring] at hfailed
    cases hfailed
  idle := by
    rcases h.idle with hfailed | habsent
    · by_cases hx : x.who? = some leader
      · obtain rfl := hmove.steps hx (by rw [hfailed]; rfl)
        rw [step_failed hfailed hmove.after]
        exact .inr (Assoc.get?_remove_self ..)
      · exact .inl ((hmove.others hx).trans hfailed)
    · rw [hmove.cache]
      exact .inr (apply_absent_flight habsent hregister)

end Vacant

theorem run_vacant (hrun : (startAt limits time).run hs = some w) :
    ∀ i leader key flight cause,
      EndsAt (startAt limits time) hs i leader key flight (.error cause) →
      Vacant w leader key flight cause ∨
        ∃ j who flight', i < j ∧ RegistersAt (startAt limits time) hs j who key flight' := by
  refine run_induction (P := fun hs w => ∀ i leader key flight cause,
    EndsAt (startAt limits time) hs i leader key flight (.error cause) →
    Vacant w leader key flight cause ∨
      ∃ j who flight', i < j ∧ RegistersAt (startAt limits time) hs j who key flight') ?_ ?_ hrun
  · intro i leader key flight cause hends
    exact absurd hends.lt (Nat.not_lt_zero i)
  · intro hs w x next hrun ih hmove i leader key flight cause hends
    have hconsistent := run_consistent hrun
    rcases endsAt_concat hrun hends with hold | ⟨-, rfl, started, hphase⟩
    · rcases ih i leader key flight cause hold with hvacant | ⟨j, who, flight', hij, hregisters⟩
      · by_cases hregister : w.operation x = .register key
        · obtain ⟨who, rfl, halone⟩ := operation_register hregister
          exact .inr ⟨hs.length, who, _, hold.lt, w, occurs_last hrun, halone, rfl⟩
        · exact .inl (hvacant.move hconsistent hmove hregister)
      · exact .inr ⟨j, who, flight', hij, hregisters.concat⟩
    · -- a leader that computes has no entry for its key, and the failure brings none
      left
      obtain rfl := result_failed hphase hmove.after
      exact ⟨hconsistent.bare leader key (by rw [hphase]; rfl), .inl (turn_phase_self ..)⟩

theorem run_failed (hrun : (startAt limits time).run hs = some w) :
    ∀ i leader key flight cause,
      EndsAt (startAt limits time) hs i leader key flight (.error cause) →
      w.phase leader = .failed key flight cause ∨
      w.phase leader = .withdrawn key flight (.error cause) ∨
      ∃ j, i < j ∧ GetsAt (startAt limits time) hs j leader (leaderShare (.error cause)) := by
  refine run_induction (P := fun hs w => ∀ i leader key flight cause,
    EndsAt (startAt limits time) hs i leader key flight (.error cause) →
    w.phase leader = .failed key flight cause ∨
    w.phase leader = .withdrawn key flight (.error cause) ∨
    ∃ j, i < j ∧ GetsAt (startAt limits time) hs j leader (leaderShare (.error cause))) ?_ ?_ hrun
  · intro i leader key flight cause hends
    exact absurd hends.lt (Nat.not_lt_zero i)
  · intro hs w x next hrun ih hmove i leader key flight cause hends
    rcases endsAt_concat hrun hends with hold | ⟨-, rfl, started, hphase⟩
    · rcases ih i leader key flight cause hold with hfailed | hwithdrawn | ⟨j, hij, hgets⟩
      · by_cases hx : x.who? = some leader
        · obtain rfl := hmove.steps hx (by rw [hfailed]; rfl)
          rw [step_failed hfailed hmove.after]
          exact .inr (.inl (turn_phase_self ..))
        · exact .inl ((hmove.others hx).trans hfailed)
      · by_cases hx : x.who? = some leader
        · obtain rfl := hmove.steps hx (by rw [hwithdrawn]; rfl)
          exact .inr (.inr ⟨hs.length, hold.lt, w, _, occurs_last hrun, step_withdrawn hwithdrawn,
            turn_phase_self ..⟩)
        · exact .inr (.inl ((hmove.others hx).trans hwithdrawn))
      · exact .inr (.inr ⟨j, hij, hgets.concat⟩)
    · obtain rfl := result_failed hphase hmove.after
      exact .inl (turn_phase_self ..)

/-- Whoever joined a leader that failed gets the cause as that of the shared computation, or goes on
waiting for a leader that has not made it known. -/
theorem joined_failed (hrun : (startAt limits time).run hs = some w) {i j : Nat} {joiner : Caller}
    (hjoins : JoinsAt (startAt limits time) hs i joiner leader key flight)
    (hends : EndsAt (startAt limits time) hs j leader key flight (.error cause)) :
    (w.phase joiner = .waiting flight ∧
      ((w.phase leader).owns? = some (key, flight) ∨
        ∃ next, w.after (.step joiner) = some next ∧
          next.phase joiner = .answered (.error (.computation cause)))) ∨
    ∃ k, i < k ∧ GetsAt (startAt limits time) hs k joiner (.error (.computation cause)) := by
  have hreported := run_reported hrun
  have hcame {m : Nat} {outcome : Except Fault (List DiffLine)}
      (h : EndsAt (startAt limits time) hs m leader key flight outcome) :
      outcome = .error cause := by
    obtain rfl := hreported.once m j leader leader key key flight _ _ h hends
    obtain ⟨v, -, hoccurs, -⟩ := h
    obtain ⟨v', -, hoccurs', -⟩ := hends
    exact (Happening.result.inj (hoccurs.unique hoccurs').1).2
  rcases joined_learns hrun i joiner leader key flight hjoins with ⟨hwaits, hpending⟩ | ⟨k, hik, hk⟩
  · left
    refine ⟨hwaits, ?_⟩
    rcases hpending with (hown | ⟨m, outcome, hm, hknown⟩) | ⟨m, d, lines, e, habandons⟩
    · exact .inl hown
    · right
      rw [step_waiting hwaits, hknown, hcame hm]
      exact ⟨_, rfl, turn_phase_self ..⟩
    · -- the flight came to one outcome only, so its leader had no lines
      obtain ⟨n, hn⟩ := habandons.gets.1
      obtain rfl := hreported.once n j d leader key key flight _ _ hn hends
      obtain ⟨v, -, hoccurs, -⟩ := hn
      obtain ⟨v', -, hoccurs', -⟩ := hends
      cases (hoccurs.unique hoccurs').1
  · right
    obtain ⟨v, next, m, outcome, hoccurs, hstep, hm, hphase⟩ := hk
    rw [hcame hm] at hphase
    exact ⟨k, hik, v, next, hoccurs, hstep, hphase⟩

def beginning (who : Caller) (key : CacheKey) : List Happening :=
  [.ask who key, .step who, .step who, .step who, .step who, .step who, .step who, .step who]

def succeeding (who : Caller) (lines : List DiffLine) : List Happening :=
  [.result who (.ok lines), .step who, .step who, .step who, .step who]

theorem miss_absent {now : Seconds} (hphase : w.phase c = .looking key now)
    (habsent : w.cache.find? key = none) :
    Move w (.step c) (w.turnWith c (.missed key, w.cache.countMiss true)) := by
  have hlookup := lookup_absent habsent true now
  have hmove := Move.miss hphase (by rw [hlookup])
  rw [hlookup] at hmove
  exact hmove

theorem missAgain_absent {now : Seconds} (hphase : w.phase c = .checking key now)
    (habsent : w.cache.find? key = none) :
    Move w (.step c) (w.turnWith c (.alone key, w.cache)) := by
  have hlookup := lookup_absent habsent false now
  have hmove := Move.missAgain hphase (by rw [hlookup])
  rw [hlookup] at hmove
  exact hmove

theorem run_first {P : Callers → Prop} {second : Callers} {more : List Happening}
    (hmove : Move w x second) (hmore : ∃ next, second.run more = some next ∧ P next) :
    ∃ next, w.run (x :: more) = some next ∧ P next := by
  obtain ⟨next, hrun, hnext⟩ := hmore
  exact ⟨next, run_cons.mpr ⟨second, hmove, hrun⟩, hnext⟩

theorem run_beginning (hfree : w.isFree who = true) (hholder : w.holder = none)
    (hbare : w.cache.find? key = none) (habsent : w.cache.inFlight.get? key = none) :
    ∃ second, w.run (beginning who key) = some second ∧
      second.phase who = .computing key w.cache.nextFlight (w.cache.generationOf key) ∧
      second.holder = none ∧ second.now = w.now ∧
      second.cache = ((w.cache.countMiss true).register key).2 := by
  have hself (v : Callers) (phase : Phase) : (v.turn who phase).phase who = phase :=
    turn_phase_self v who phase
  refine run_first (.ask hfree) ?_
  refine run_first (.timeToLook (hself ..)) ?_
  refine run_first (miss_absent (hself ..) hbare) ?_
  refine run_first (.take (hself ..) hholder habsent) ?_
  refine run_first (.timeToCheck (hself ..)) ?_
  refine run_first (missAgain_absent (hself ..) hbare) ?_
  refine run_first (.register (hself ..)) ?_
  refine run_first (.start (hself ..)) ?_
  exact ⟨_, rfl, hself .., rfl, rfl, rfl⟩

theorem run_succeeding {size : Nat} (hsize : estimateSize lines = .ok size)
    (hphase : w.phase who = .computing key flight started) (hholder : w.holder = none) :
    ∃ next, w.run (succeeding who lines) = some next ∧ next.phase who = .answered (.ok lines) ∧
      next.cache = (w.cache.store key lines started w.now).2.unregister key := by
  have hself (v : Callers) (phase : Phase) : (v.turn who phase).phase who = phase :=
    turn_phase_self v who phase
  refine run_first (.succeed hphase) ?_
  refine run_first (.timeToStore (hself ..)) ?_
  refine run_first (.store (hself ..) hsize) ?_
  refine run_first (.withdrawStored (hself ..) hholder) ?_
  refine run_first (.publish (hself ..)) ?_
  exact ⟨_, rfl, hself .., rfl⟩

theorem Move.seeks (h : Move w (.step who) next) (hseeks : (w.phase who).seeks? = some key)
    (hbare : w.cache.find? key = none) (habsent : w.cache.inFlight.get? key = none) :
    (next.phase who).seeks? = some key ∨
      w.phase who = .alone key ∧ next.phase who = .registered key w.cache.nextFlight := by
  have hkey {phase : Phase} {other : CacheKey} (hphase : w.phase who = phase)
      (hother : phase.seeks? = some other) : other = key := by
    rw [hphase, hother] at hseeks
    exact Option.some.inj hseeks
  have hself (phase : Phase) : (w.turn who phase).phase who = phase := turn_phase_self w who phase
  cases h with
  | timeToLook hphase | miss hphase | take hphase | timeToCheck hphase | missAgain hphase =>
    left
    rw [← hkey hphase rfl]
    exact congrArg seeks? (hself _)
  | register hphase =>
    right
    obtain rfl := hkey hphase rfl
    exact ⟨hphase, hself _⟩
  -- nobody computes the key, so there is nothing to join, and no lookup finds it
  | join hphase hholder hfound =>
    rw [hkey hphase rfl, habsent] at hfound
    cases hfound
  | find hphase hlookup | findAgain hphase hlookup =>
    rw [hkey hphase rfl, lookup_absent hbare] at hlookup
    cases hlookup
  | timeToPeek hphase | peek hphase | start hphase | timeToStore hphase | store hphase
  | abandon hphase | withdrawStored hphase | withdrawFailed hphase | publish hphase | learn hphase =>
    rw [hphase] at hseeks
    cases hseeks

def LastFailed (first : Callers) (hs : List Happening) (w : Callers) (key : CacheKey)
    (flight : Flight) : Prop :=
  ∃ i leader cause, EndsAt first hs i leader key flight (.error cause) ∧
    w.phase leader ≠ .failed key flight cause ∧
    ∀ j who flight', i < j → ¬ RegistersAt first hs j who key flight'

structure Renews (table : DiffCache) (who : Caller) (key : CacheKey) (started : Generation)
    (lines : List DiffLine) (size : Nat) (time : Seconds) (second next : Callers) : Prop where
  succeeds : second.run (.tick time :: succeeding who lines) = some next
  returned : next.phase who = .answered (.ok lines)
  stored : next.cache.SameTable ((table.countMiss true).store key lines started time).2
  found : size ≤ table.limits.maxSize →
    next.cache.find? key = some ⟨key, lines, size, time, time⟩
  ended : next.cache.inFlight.get? key = none

/-- What a failure means at a moment of a run. -/
structure Traceless (first : Callers) (hs : List Happening) (w : Callers) : Prop where
  /-- From its lookups on, a caller that has no result leaves the table of entries alone. -/
  spares : ∀ c x next, x.who? = some c → (w.phase c).unrewarded = true →
    w.after x = some next → next.cache.SameTable w.cache
  /-- A leader that failed lets go of its key, and of no other one. -/
  withdraws : ∀ leader key flight cause, w.phase leader = .failed key flight cause →
    w.holder = none → ∃ next, w.after (.step leader) = some next ∧
      next.phase leader = .withdrawn key flight (.error cause) ∧
      next.cache.inFlight.get? key = none ∧
      ∀ other, other ≠ key → next.cache.inFlight.get? other = w.cache.inFlight.get? other
  /-- The leader gets an interrupt as it is, and any other cause as that of the computation. -/
  leader : ∀ i leader key flight cause, EndsAt first hs i leader key flight (.error cause) →
    w.phase leader = .failed key flight cause ∨
    (w.phase leader = .withdrawn key flight (.error cause) ∧
      ∃ next, w.after (.step leader) = some next ∧ next.phase leader =
        .answered (.error (if cause.isInterrupt then cause else .computation cause))) ∨
    ∃ j, i < j ∧ GetsAt first hs j leader
      (.error (if cause.isInterrupt then cause else .computation cause))
  /-- Whoever joined gets the cause as that of the computation, as soon as it is known. -/
  joiner : ∀ i j joiner leader key flight cause, JoinsAt first hs i joiner leader key flight →
    EndsAt first hs j leader key flight (.error cause) →
    (w.phase joiner = .waiting flight ∧
      ((w.phase leader).owns? = some (key, flight) ∨
        ∃ next, w.after (.step joiner) = some next ∧
          next.phase joiner = .answered (.error (.computation cause)))) ∨
    ∃ k, i < k ∧ GetsAt first hs k joiner (.error (.computation cause))
  /-- Nothing is kept for the key then, and it is not in progress. -/
  vacant : ∀ key flight, LastFailed first hs w key flight →
    w.cache.find? key = none ∧ w.cache.inFlight.get? key = none
  /-- Whoever looks for the key then neither finds nor joins anything, whatever others do. -/
  sought : ∀ key flight who next, LastFailed first hs w key flight →
    (w.phase who).seeks? = some key → w.after (.step who) = some next →
    (next.phase who).seeks? = some key ∨
      w.phase who = .alone key ∧ next.phase who = .registered key w.cache.nextFlight
  /-- The next call computes in a flight of its own. A success is returned, and stored as in any
  other cache with the same table. -/
  again : ∀ key flight who time table, LastFailed first hs w key flight →
    w.cache.SameTable table → w.holder = none → w.isFree who = true → w.now.le time = true →
    flight < w.cache.nextFlight ∧ ∃ second, w.run (beginning who key) = some second ∧
      second.phase who = .computing key w.cache.nextFlight (table.generationOf key) ∧
      ∀ lines size, estimateSize lines = .ok size →
        ∃ next, Renews table who key (table.generationOf key) lines size time second next

theorem LastFailed.vacant (h : LastFailed (startAt limits time) hs w key flight)
    (hrun : (startAt limits time).run hs = some w) :
    w.cache.find? key = none ∧ w.cache.inFlight.get? key = none := by
  obtain ⟨i, leader, cause, hends, hgone, hlast⟩ := h
  rcases run_vacant hrun i leader key flight cause hends with hvacant | ⟨j, who, flight', hij, hj⟩
  · exact ⟨hvacant.bare, hvacant.idle.resolve_left hgone⟩
  · exact absurd hj (hlast j who flight' hij)

theorem ended_below (hrun : (startAt limits time).run hs = some w) {i : Nat}
    {outcome : Except Fault (List DiffLine)}
    (h : EndsAt (startAt limits time) hs i leader key flight outcome) :
    flight < w.cache.nextFlight := by
  have hnumbered := run_numbered hrun
  rcases (run_reported hrun).result i leader key flight outcome h with
    hresult | hknown | ⟨j, lines, e, -, habandons⟩
  · exact hnumbered.below leader key flight (owns_of_result hresult)
  · exact hnumbered.known flight outcome hknown
  · exact (run_orphaned hrun key flight ⟨j, leader, lines, e, habandons⟩).issued

theorem run_renews (hfree : w.isFree who = true) (hholder : w.holder = none)
    (hbare : w.cache.find? key = none) (habsent : w.cache.inFlight.get? key = none)
    (horderly : w.cache.Orderly) {table : DiffCache} (hsame : w.cache.SameTable table)
    (hclock : w.now.le time = true) :
    ∃ second, w.run (beginning who key) = some second ∧
      second.phase who = .computing key w.cache.nextFlight (table.generationOf key) ∧
      ∀ lines size, estimateSize lines = .ok size →
        ∃ next, Renews table who key (table.generationOf key) lines size time second next := by
  obtain ⟨second, hbegins, hcomputes, hfirst, hnow, hcache⟩ :=
    run_beginning hfree hholder hbare habsent
  have hgeneration : w.cache.generationOf key = table.generationOf key := by
    rw [hsame]
    rfl
  have hsecond : second.cache.SameTable (table.countMiss true) := by
    rw [hcache]
    exact (sameTable_register ..).trans (hsame.countMiss true)
  rw [hgeneration] at hcomputes
  refine ⟨second, hbegins, hcomputes, fun lines size hsize => ?_⟩
  have htick : Move second (.tick time) { second with now := time } :=
    .tick (hnow ▸ hclock)
  obtain ⟨next, hrun, hanswered, hended⟩ :=
    run_succeeding (w := { second with now := time }) hsize hcomputes hfirst
  have hstored : next.cache.SameTable
      ((table.countMiss true).store key lines (table.generationOf key) time).2 := by
    rw [hended]
    exact (sameTable_unregister ..).trans (hsecond.store ..)
  have hfound (hfits : size ≤ table.limits.maxSize) :
      next.cache.find? key = some ⟨key, lines, size, time, time⟩ := by
    have hready : second.cache.Orderly := by
      rw [hcache, countMiss_eq]
      exact ⟨horderly.distinct, horderly.sized, horderly.total⟩
    have hstarted : table.generationOf key = second.cache.generationOf key := by
      rw [← hgeneration, hcache, countMiss_eq]
      rfl
    have hbudget : size ≤ second.cache.limits.maxSize := by
      rw [hsecond]
      exact hfits
    rw [hended]
    exact (store_present hready hsize hstarted hbudget time).1
  have hgone : next.cache.inFlight.get? key = none := by
    rw [hended]
    exact Assoc.get?_remove_self ..
  exact ⟨next, run_cons.mpr ⟨_, htick, hrun⟩, hanswered, hstored, hfound, hgone⟩

end Callers

end ReviewDiff
