import ReviewDiff.Proofs.Cache.Accounting
import ReviewDiff.Proofs.Cache.Flight

/-!
# Registered keys are reserved

A registered key has no entry until its leader stores the result, or gives the key up because the
computation failed. Only the leader could bring an entry, since every store is one of a leader and a
key has one leader. So the removal of an older entry, with which a store begins, never finds
anything: a store only ever adds to the table.
-/

set_option autoImplicit false

namespace ReviewDiff

namespace DiffCache

variable {c : DiffCache} {key : CacheKey}

def storeNew (key : CacheKey) (lines : List DiffLine) (started : Generation) (now : Seconds)
    (c : DiffCache) : Storing × DiffCache :=
  match estimateSize lines with
  | .error e => (.unsized e, c)
  | .ok size =>
    if started ≠ c.generationOf key then (.invalidated, c)
    else if c.limits.maxSize < size then (.tooLarge size, c)
    else
      let (out, kept) := ((c.insert ⟨key, lines, size, now, now⟩).sweep now).evict
      (.stored out, kept)

theorem store_new (h : c.find? key = none) (lines : List DiffLine) (started : Generation)
    (now : Seconds) : c.store key lines started now = c.storeNew key lines started now := by
  rw [store, drop_self h]
  rfl

end DiffCache

namespace Phase

def reserves? : Phase → Option (CacheKey × Flight)
  | .registered key flight => some (key, flight)
  | .computing key flight _ => some (key, flight)
  | .computed key flight _ _ => some (key, flight)
  | .storing key flight _ _ _ => some (key, flight)
  | .failed key flight _ => some (key, flight)
  | _ => none

def settles : Phase → Bool
  | .storing .. => true
  | .failed .. => true
  | _ => false

theorem leads_of_reserves {phase : Phase} {key : CacheKey} {flight : Flight}
    (h : phase.reserves? = some (key, flight)) : phase.leads? = some (key, flight) := by
  cases phase <;> cases h <;> rfl

end Phase

namespace Callers

open DiffCache Phase

variable {first w next : Callers} {hs : List Happening} {x : Happening} {who c : Caller}
  {phase : Phase} {key : CacheKey} {flight : Flight} {limits : Limits} {time : Seconds}

theorem Move.reservations (h : Move w x next) :
    (∀ c, (next.phase c).reserves? = (w.phase c).reserves?) ∨
    (∃ who key, x = .step who ∧ w.phase who = .alone key ∧
      next = w.turnWith who (.registered key w.cache.nextFlight, (w.cache.register key).2)) ∨
    (∃ who phase, x = .step who ∧ (w.phase who).settles = true ∧ phase.reserves? = none ∧
      next.phase = (w.turn who phase).phase) := by
  cases h with
  | tick | contains | invalidate | invalidateAll => exact .inl fun _ => rfl
  | get hfree | ask hfree =>
    have hnone := free_keeps reserves? hfree rfl (fun _ => rfl) fun _ => rfl
    exact .inl (turn_keeps reserves? hnone.symm)
  | timeToPeek hphase | peek hphase | timeToLook hphase | find hphase | miss hphase | join hphase
  | take hphase | timeToCheck hphase | findAgain hphase | missAgain hphase | start hphase
  | succeed hphase | fail hphase | timeToStore hphase | withdrawStored hphase | publish hphase
  | learn hphase => exact .inl (turn_keeps reserves? (by rw [hphase]; rfl))
  | register hphase => exact .inr (.inl ⟨_, _, rfl, hphase, rfl⟩)
  | store hphase | abandon hphase | withdrawFailed hphase =>
    exact .inr (.inr ⟨_, _, rfl, by rw [hphase]; rfl, rfl, rfl⟩)

theorem Move.reserved_until (h : Move w x next)
    (hreserves : (w.phase c).reserves? = some (key, flight)) :
    (next.phase c).reserves? = some (key, flight) ∨ x = .step c ∧ (w.phase c).settles = true := by
  obtain hsame | ⟨who, k, rfl, hphase, rfl⟩ | ⟨who, phase, rfl, hsettles, -, hnext⟩ := h.reservations
  · exact .inl ((hsame c).trans hreserves)
  · have hne : c ≠ who := by
      rintro rfl
      rw [hphase] at hreserves
      cases hreserves
    exact .inl ((congrArg reserves? (turn_phase_ne w _ hne)).trans hreserves)
  · by_cases hc : c = who
    · subst hc
      exact .inr ⟨rfl, hsettles⟩
    · rw [hnext, turn_phase_ne w phase hc]
      exact .inl hreserves

theorem Move.reserved_since (h : Move w x next)
    (hreserves : (next.phase c).reserves? = some (key, flight)) :
    (w.phase c).reserves? = some (key, flight) ∨
      x = .step c ∧ w.phase c = .alone key ∧ w.cache.nextFlight = flight := by
  obtain hsame | ⟨who, k, rfl, hphase, rfl⟩ | ⟨who, phase, rfl, -, hnone, hnext⟩ := h.reservations
  · exact .inl ((hsame c).symm.trans hreserves)
  · obtain ⟨rfl, hself⟩ | ⟨-, hold⟩ := turn_some hreserves
    · cases hself
      exact .inr ⟨rfl, hphase, rfl⟩
    · exact .inl hold
  · rw [hnext] at hreserves
    exact .inl (turn_others (f := reserves?) hnone hreserves).2

theorem Move.reserved_bare (hw : w.Consistent) (h : Move w x next)
    (hbare : ∀ c key flight, (w.phase c).reserves? = some (key, flight) →
      w.cache.find? key = none)
    (hreserves : (next.phase c).reserves? = some (key, flight)) :
    next.cache.find? key = none := by
  have habsent : w.cache.find? key = none := by
    obtain hold | ⟨-, hphase, -⟩ := h.reserved_since hreserves
    · exact hbare c key flight hold
    · exact hw.bare c key (by rw [hphase]; rfl)
  rw [h.cache]
  apply apply_absent habsent
  intro lines hstores
  obtain ⟨who, flight', started, now, rfl, hphase⟩ := operation_stores hstores
  -- whoever stores has settled, so the key would be reserved by another leader of it
  obtain rfl := Option.some.inj (h.after.symm.trans (storing_move hphase).after)
  have hnone : ((w.cache.store key lines started now).1.phase key flight' lines).reserves? = none := by
    cases (w.cache.store key lines started now).1 <;> rfl
  obtain ⟨hne, hold⟩ := turn_others hnone hreserves
  exact hne (hw.single c who key flight flight' (leads_of_reserves hold) (by rw [hphase]; rfl))

def SettlesAt (first : Callers) (hs : List Happening) (i : Nat) (leader : Caller) (key : CacheKey)
    (flight : Flight) : Prop :=
  ∃ w, Occurs first hs i (.step leader) w ∧ (w.phase leader).reserves? = some (key, flight) ∧
    (w.phase leader).settles = true

theorem SettlesAt.concat {i : Nat} (h : SettlesAt first hs i c key flight) :
    SettlesAt first (hs ++ [x]) i c key flight := by
  obtain ⟨v, hoccurs, hphase⟩ := h
  exact ⟨v, hoccurs.concat, hphase⟩

theorem run_reserved (hrun : (startAt limits time).run hs = some w) :
    ∀ c key flight, (w.phase c).reserves? = some (key, flight) → w.cache.find? key = none := by
  refine run_induction (P := fun _ w => ∀ c key flight,
    (w.phase c).reserves? = some (key, flight) → w.cache.find? key = none) ?_ ?_ hrun
  · intro c key flight h
    cases h
  · intro hs w x next hrun ih hmove c key flight h
    exact hmove.reserved_bare (run_consistent hrun) ih h

theorem registersAt_concat {i : Nat} (hrun : first.run hs = some w)
    (h : RegistersAt first (hs ++ [x]) i c key flight) :
    RegistersAt first hs i c key flight ∨
      x = .step c ∧ w.phase c = .alone key ∧ w.cache.nextFlight = flight := by
  obtain ⟨v, hoccurs, hphase, hflight⟩ := h
  obtain hold | ⟨-, hx, hlast⟩ := occurs_concat hoccurs
  · exact .inl ⟨v, hold, hphase, hflight⟩
  · obtain rfl := Option.some.inj (hlast.symm.trans hrun)
    exact .inr ⟨hx.symm, hphase, hflight⟩

theorem registered_reserves (hrun : (startAt limits time).run hs = some w) :
    ∀ i leader key flight, RegistersAt (startAt limits time) hs i leader key flight →
      (w.phase leader).reserves? = some (key, flight) ∨
        ∃ j, SettlesAt (startAt limits time) hs j leader key flight := by
  refine run_induction (P := fun hs w => ∀ i leader key flight,
    RegistersAt (startAt limits time) hs i leader key flight →
      (w.phase leader).reserves? = some (key, flight) ∨
        ∃ j, SettlesAt (startAt limits time) hs j leader key flight) ?_ ?_ hrun
  · rintro i leader key flight ⟨v, hoccurs, -⟩
    exact absurd hoccurs.lt (Nat.not_lt_zero i)
  · intro hs w x next hrun ih hmove i leader key flight h
    obtain hold | ⟨rfl, hphase, rfl⟩ := registersAt_concat hrun h
    · obtain hreserves | ⟨j, hsettles⟩ := ih i leader key flight hold
      · obtain hstill | ⟨rfl, hsettles⟩ := hmove.reserved_until hreserves
        · exact .inl hstill
        · exact .inr ⟨hs.length, w, occurs_last hrun, hreserves, hsettles⟩
      · exact .inr ⟨j, hsettles.concat⟩
    · left
      obtain rfl := Option.some.inj (hmove.after.symm.trans (Move.register hphase).after)
      exact congrArg reserves? (turn_phase_self w leader _)

/-- What it means at a moment of a run that no store overwrites. -/
structure NeverOverwrites (first : Callers) (hs : List Happening) (w : Callers) : Prop where
  /-- When a leader registers a key, the key has no entry. -/
  registered : ∀ i leader key flight, RegistersAt first hs i leader key flight →
    ∃ v, Occurs first hs i (.step leader) v ∧ v.cache.find? key = none
  /-- From then on it has none until the leader stores its result, or gives up the key if its
  computation failed. -/
  reserved : ∀ i leader key flight, RegistersAt first hs i leader key flight →
    (∀ j, ¬ SettlesAt first hs j leader key flight) → w.cache.find? key = none
  /-- So a store finds no entry of its key, and all that it does is done without looking for one. -/
  added : ∀ leader key flight started lines now,
    w.phase leader = .storing key flight started lines now → w.cache.find? key = none ∧
      w.after (.step leader) = some (w.turnWith leader
        ((w.cache.storeNew key lines started now).1.phase key flight lines,
          (w.cache.storeNew key lines started now).2))

/-- Whatever callers do, no store removes an older entry of its key. -/
theorem never_overwrites (hrun : (startAt limits time).run hs = some w) :
    NeverOverwrites (startAt limits time) hs w where
  registered i leader key flight h := by
    obtain ⟨v, hoccurs, hphase, -⟩ := h
    exact ⟨v, hoccurs, (run_consistent hoccurs.2).bare leader key (by rw [hphase]; rfl)⟩
  reserved i leader key flight h hnot := by
    obtain hreserves | ⟨j, hsettles⟩ := registered_reserves hrun i leader key flight h
    · exact run_reserved hrun leader key flight hreserves
    · exact absurd hsettles (hnot j)
  added leader key flight started lines now hphase := by
    have habsent := run_reserved hrun leader key flight (by rw [hphase]; rfl)
    refine ⟨habsent, ?_⟩
    rw [← store_new habsent lines started now]
    exact (storing_move hphase).after

theorem never_overwrites_expired :
    let key : CacheKey := ⟨"repository", ⟨"file", by decide⟩, "old", "new", .complete, none⟩
    let lines : List DiffLine := [.added "line" 1]
    let hs : List Happening := [.ask 0 key, .step 0, .step 0, .step 0, .step 0, .step 0, .step 0,
      .step 0, .result 0 (.ok lines), .step 0, .step 0, .step 0, .step 0, .tick (.whole 70),
      .ask 1 key, .step 1, .step 1, .ask 2 key, .step 2, .step 2, .step 1, .step 1, .step 1, .step 1,
      .step 1, .step 2, .result 1 (.ok lines), .step 1]
    let first := startAt ⟨100, .whole 60, by decide, by decide⟩ (.whole 5)
    ∃ w, first.run hs = some w ∧ w.phase 1 = .storing key 1 ⟨0, 0⟩ lines (.whole 70) ∧
      w.phase 2 = .waiting 1 ∧ NeverOverwrites first hs w :=
  ⟨_, rfl, rfl, rfl, never_overwrites rfl⟩

end Callers

end ReviewDiff
