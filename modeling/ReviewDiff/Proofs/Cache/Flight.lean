import ReviewDiff.Proofs.Cache.Leader

/-!
# Flights and their outcomes

A computation in progress has a name that no other one ever gets. The caller who registered it owns
the name until the outcome is known to all, and the outcome that becomes known is what the owner's
computation came to. Those who joined wait for exactly this name. If the owner finds that the result
has no size, the name has no owner any more and nobody ever knows its outcome.
-/

set_option autoImplicit false

namespace ReviewDiff

namespace Phase

def owns? : Phase → Option (CacheKey × Flight)
  | .withdrawn key flight _ => some (key, flight)
  | phase => phase.leads?

def result? : Phase → Option (CacheKey × Flight × Except Fault (List DiffLine))
  | .computed key flight _ lines => some (key, flight, .ok lines)
  | .storing key flight _ lines _ => some (key, flight, .ok lines)
  | .stored key flight lines => some (key, flight, .ok lines)
  | .failed key flight cause => some (key, flight, .error cause)
  | .withdrawn key flight outcome => some (key, flight, outcome)
  | _ => none

variable {phase : Phase} {key : CacheKey} {flight : Flight}

theorem owns_of_leads (h : phase.leads? = some (key, flight)) :
    phase.owns? = some (key, flight) := by
  cases phase <;> first | exact h | cases h

theorem owns_of_result {outcome : Except Fault (List DiffLine)}
    (h : phase.result? = some (key, flight, outcome)) : phase.owns? = some (key, flight) := by
  cases phase <;> cases h <;> rfl

end Phase

namespace Callers

open DiffCache Phase

variable {first w next : Callers} {hs : List Happening} {x : Happening} {who c : Caller}
  {phase : Phase} {key : CacheKey} {flight : Flight} {outcome : Except Fault (List DiffLine)}

theorem Move.owners (h : Move w x next) :
    (next.outcomes = w.outcomes ∧ next.cache.nextFlight = w.cache.nextFlight ∧
      ∀ c, (next.phase c).owns? = (w.phase c).owns?) ∨
    (∃ who key, x = .step who ∧ w.phase who = .alone key ∧
      next = w.turnWith who (.registered key w.cache.nextFlight, (w.cache.register key).2)) ∨
    (∃ who key flight outcome, x = .step who ∧ w.phase who = .withdrawn key flight outcome ∧
      next = { w.turn who (.answered (leaderShare outcome)) with
        outcomes := w.outcomes.put flight outcome }) ∨
    (∃ who key flight started lines now e, x = .step who ∧
      w.phase who = .storing key flight started lines now ∧ estimateSize lines = .error e ∧
      next = w.turn who (.answered (.error (.unsized e)))) := by
  cases h with
  | tick | contains | invalidate | invalidateAll => exact .inl ⟨rfl, rfl, fun _ => rfl⟩
  | get hfree =>
    have hnone := free_keeps owns? hfree rfl (fun _ => rfl) fun _ => rfl
    exact .inl ⟨rfl, rfl, turn_keeps owns? hnone.symm⟩
  | ask hfree =>
    have hnone := free_keeps owns? hfree rfl (fun _ => rfl) fun _ => rfl
    exact .inl ⟨rfl, rfl, turn_keeps owns? hnone.symm⟩
  | peek hphase | find hphase | miss hphase | findAgain hphase | missAgain hphase =>
    exact .inl ⟨rfl, (lookup_frame ..).2.2.2.2.1, turn_keeps owns? (by rw [hphase]; rfl)⟩
  | store hphase =>
    exact .inl ⟨rfl, (store_frame ..).2.2.2.2.1, turn_keeps owns? (by rw [hphase]; rfl)⟩
  | timeToPeek hphase | timeToLook hphase | join hphase | take hphase | timeToCheck hphase
  | start hphase | succeed hphase | fail hphase | timeToStore hphase | withdrawStored hphase
  | withdrawFailed hphase | learn hphase =>
    exact .inl ⟨rfl, rfl, turn_keeps owns? (by rw [hphase]; rfl)⟩
  | register hphase => exact .inr (.inl ⟨_, _, rfl, hphase, rfl⟩)
  | publish hphase => exact .inr (.inr (.inl ⟨_, _, _, _, rfl, hphase, rfl⟩))
  | abandon hphase hsize =>
    exact .inr (.inr (.inr ⟨_, _, _, _, _, _, _, rfl, hphase, hsize, rfl⟩))

/-- Every flight has at most one owner, and its outcome is not known as long as it has one. -/
structure Numbered (w : Callers) : Prop where
  below : ∀ c key flight, (w.phase c).owns? = some (key, flight) → flight < w.cache.nextFlight
  known : ∀ flight outcome, w.outcomes.get? flight = some outcome → flight < w.cache.nextFlight
  single : ∀ c d key key' flight, (w.phase c).owns? = some (key, flight) →
    (w.phase d).owns? = some (key', flight) → c = d
  unknown : ∀ c key flight, (w.phase c).owns? = some (key, flight) →
    w.outcomes.get? flight = none

namespace Numbered

theorem registered (hw : w.Numbered) :
    (w.turnWith who
      (.registered key w.cache.nextFlight, (w.cache.register key).2)).Numbered := by
  have howns {c : Caller} {k : CacheKey} {flight : Flight}
      (h : ((w.turn who (.registered key w.cache.nextFlight)).phase c).owns? = some (k, flight)) :
      (c = who ∧ flight = w.cache.nextFlight) ∨ (w.phase c).owns? = some (k, flight) := by
    obtain ⟨hc, hself⟩ | ⟨-, hold⟩ := turn_some h
    · exact .inl ⟨hc, (congrArg Prod.snd (Option.some.inj hself)).symm⟩
    · exact .inr hold
  refine ⟨fun c k f h => ?_, fun f o h => Nat.lt_succ_of_lt (hw.known f o h),
    fun c d k k' f hc hd => ?_, fun c k f h => ?_⟩
  · obtain ⟨-, rfl⟩ | hold := howns h
    · exact Nat.lt_succ_self _
    · exact Nat.lt_succ_of_lt (hw.below c k f hold)
  · obtain ⟨rfl, hf⟩ | hoc := howns hc
    · obtain ⟨rfl, -⟩ | hod := howns hd
      · rfl
      · exact absurd hf (Nat.ne_of_lt (hw.below d k' f hod))
    · obtain ⟨rfl, hf⟩ | hod := howns hd
      · exact absurd hf (Nat.ne_of_lt (hw.below c k f hoc))
      · exact hw.single c d k k' f hoc hod
  · obtain ⟨-, rfl⟩ | hold := howns h
    · cases hknown : w.outcomes.get? w.cache.nextFlight with
      | none => exact hknown
      | some o => exact absurd (hw.known _ o hknown) (Nat.lt_irrefl _)
    · exact hw.unknown c k f hold

theorem published (hw : w.Numbered) (hphase : w.phase who = .withdrawn key flight outcome) :
    Numbered { w.turn who (.answered (leaderShare outcome)) with
      outcomes := w.outcomes.put flight outcome } := by
  have hown : (w.phase who).owns? = some (key, flight) := by rw [hphase]; rfl
  have howns {c : Caller} {k : CacheKey} {f : Flight}
      (h : ((w.turn who (.answered (leaderShare outcome))).phase c).owns? = some (k, f)) :
      (w.phase c).owns? = some (k, f) ∧ flight ≠ f := by
    obtain ⟨hc, hold⟩ := turn_others (f := owns?) rfl h
    refine ⟨hold, ?_⟩
    rintro rfl
    exact hc (hw.single c who k key flight hold hown)
  refine ⟨fun c k f h => hw.below c k f (howns h).1, fun f o h => ?_,
    fun c d k k' f hc hd => hw.single c d k k' f (howns hc).1 (howns hd).1, fun c k f h => ?_⟩
  · by_cases hf : flight = f
    · exact hf ▸ hw.below who key flight hown
    · exact hw.known f o ((Assoc.get?_put_ne _ _ hf).symm.trans h)
  · exact (Assoc.get?_put_ne _ _ (howns h).2).trans (hw.unknown c k f (howns h).1)

theorem move (hw : w.Numbered) (h : Move w x next) : next.Numbered := by
  obtain ⟨houtcomes, hnext, howns⟩ | ⟨who, key, -, -, rfl⟩ |
    ⟨who, key, flight, outcome, -, hphase, rfl⟩ |
    ⟨who, key, flight, started, lines, now, e, -, -, -, rfl⟩ := h.owners
  · refine ⟨fun c k f h => ?_, fun f o h => ?_, fun c d k k' f hc hd => ?_, fun c k f h => ?_⟩
    · exact hnext ▸ hw.below c k f (howns c ▸ h)
    · exact hnext ▸ hw.known f o (houtcomes ▸ h)
    · exact hw.single c d k k' f (howns c ▸ hc) (howns d ▸ hd)
    · exact houtcomes ▸ hw.unknown c k f (howns c ▸ h)
  · exact hw.registered
  · exact hw.published hphase
  · have howns {c : Caller} {k : CacheKey} {f : Flight}
        (h : ((w.turn who (.answered (.error (.unsized e)))).phase c).owns? = some (k, f)) :
        (w.phase c).owns? = some (k, f) := (turn_others (f := owns?) rfl h).2
    exact ⟨fun c k f h => hw.below c k f (howns h), hw.known,
      fun c d k k' f hc hd => hw.single c d k k' f (howns hc) (howns hd),
      fun c k f h => hw.unknown c k f (howns h)⟩

end Numbered

theorem startAt_numbered (limits : Limits) (time : Seconds) : (startAt limits time).Numbered where
  below _ _ _ h := by cases h
  known _ _ h := by cases h
  single _ _ _ _ _ h := by cases h
  unknown _ _ _ _ := rfl

theorem run_numbered {limits : Limits} {time : Seconds}
    (hrun : (startAt limits time).run hs = some w) : w.Numbered :=
  run_induction (P := fun _ w => w.Numbered) (startAt_numbered limits time)
    (fun _ _ _ _ _ hw hmove => hw.move hmove) hrun

structure Orphaned (w : Callers) (key : CacheKey) (flight : Flight) : Prop where
  inFlight : w.cache.inFlight.get? key = some flight
  unkept : w.cache.find? key = none
  issued : flight < w.cache.nextFlight
  unowned : ∀ c k, (w.phase c).owns? ≠ some (k, flight)
  unknown : w.outcomes.get? flight = none

theorem Orphaned.move (hw : w.Consistent) (h : Orphaned w key flight) (hmove : Move w x next) :
    Orphaned next key flight := by
  have hled (c : Caller) (f : Flight) : (w.phase c).leads? ≠ some (key, f) := by
    intro hleads
    obtain rfl := Option.some.inj ((hw.inFlight c key f hleads).symm.trans h.inFlight)
    exact h.unowned c key (owns_of_leads hleads)
  have htable : next.cache.inFlight.get? key = some flight := by
    obtain ⟨hsame, -⟩ | ⟨who, k, hphase, rfl⟩ | ⟨who, k, f, outcome, hleads, rfl⟩ |
      ⟨who, k, f, started, lines, now, e, -, -, -, rfl⟩ := hmove.leads
    · exact hsame ▸ h.inFlight
    · have hk : k ≠ key := by
        rintro rfl
        have habsent := hw.entered who k (by rw [hphase]; rfl)
        exact nomatch habsent.symm.trans h.inFlight
      exact (Assoc.get?_put_ne _ _ hk).trans h.inFlight
    · have hk : k ≠ key := by
        rintro rfl
        exact hled who f hleads
      exact (Assoc.get?_remove_ne _ hk).trans h.inFlight
    · exact h.inFlight
  have hunkept : next.cache.find? key = none := by
    rw [hmove.cache]
    refine apply_absent h.unkept fun lines hstores => ?_
    obtain ⟨who, f, started, now, -, hphase⟩ := operation_stores hstores
    exact hled who f (by rw [hphase]; rfl)
  obtain ⟨houtcomes, hnext, howns⟩ | ⟨who, k, -, -, rfl⟩ | ⟨who, k, f, o, -, hphase, rfl⟩ |
    ⟨who, k, f, started, lines, now, e, -, -, -, rfl⟩ := hmove.owners
  · refine ⟨htable, hunkept, hnext ▸ h.issued, fun c k hown => ?_, houtcomes ▸ h.unknown⟩
    exact h.unowned c k (howns c ▸ hown)
  · refine ⟨htable, hunkept, Nat.lt_succ_of_lt h.issued, fun c k' hown => ?_, h.unknown⟩
    obtain ⟨-, hself⟩ | ⟨-, hold⟩ := turn_some hown
    · cases hself
      exact Nat.lt_irrefl _ h.issued
    · exact h.unowned c k' hold
  · have hf : f ≠ flight := by
      rintro rfl
      exact h.unowned who k (by rw [hphase]; rfl)
    refine ⟨htable, hunkept, h.issued, fun c k' hown => ?_,
      (Assoc.get?_put_ne _ _ hf).trans h.unknown⟩
    exact h.unowned c k' (turn_others (f := owns?) rfl hown).2
  · refine ⟨htable, hunkept, h.issued, fun c k' hown => ?_, h.unknown⟩
    exact h.unowned c k' (turn_others (f := owns?) rfl hown).2

theorem Orphaned.run (hw : w.Consistent) (h : Orphaned w key flight)
    (hrun : w.run hs = some next) : Orphaned next key flight := by
  have hboth : next.Consistent ∧ Orphaned next key flight :=
    run_induction (P := fun _ w => w.Consistent ∧ Orphaned w key flight) ⟨hw, h⟩
      (fun _ _ _ _ _ ih hmove => ⟨ih.1.move hmove, ih.2.move ih.1 hmove⟩) hrun
  exact hboth.2

theorem Consistent.orphaned {started : Generation} {lines : List DiffLine} {now : Seconds}
    {e : Unencodable} (hw : w.Consistent) (hnumbered : w.Numbered)
    (hphase : w.phase who = .storing key flight started lines now) :
    Orphaned (w.turn who (.answered (.error (.unsized e)))) key flight := by
  have hown : (w.phase who).owns? = some (key, flight) := by rw [hphase]; rfl
  refine ⟨hw.inFlight who key flight (by rw [hphase]; rfl), hw.bare who key (by rw [hphase]; rfl),
    hnumbered.below who key flight hown, fun c k h => ?_, hnumbered.unknown who key flight hown⟩
  obtain ⟨hc, hold⟩ := turn_others (f := owns?) rfl h
  exact hc (hnumbered.single c who k key flight hold hown)

theorem abandonsAt_concat {i : Nat} {lines : List DiffLine} {e : Unencodable}
    (hrun : first.run hs = some w)
    (h : AbandonsAt first (hs ++ [x]) i c key flight lines e) :
    AbandonsAt first hs i c key flight lines e ∨ i = hs.length ∧ x = .step c ∧
      estimateSize lines = .error e ∧
      ∃ started now, w.phase c = .storing key flight started lines now := by
  obtain ⟨v, started, now, hoccurs, hphase, hsize⟩ := h
  obtain hold | ⟨hi, hx, hlast⟩ := occurs_concat hoccurs
  · exact .inl ⟨v, started, now, hold, hphase, hsize⟩
  · obtain rfl := Option.some.inj (hlast.symm.trans hrun)
    exact .inr ⟨hi, hx.symm, hsize, started, now, hphase⟩

theorem run_orphaned {limits : Limits} {time : Seconds}
    (hrun : (startAt limits time).run hs = some w) :
    ∀ key flight, LeftBehind (startAt limits time) hs key flight → Orphaned w key flight := by
  refine run_induction (P := fun hs w => ∀ key flight,
    LeftBehind (startAt limits time) hs key flight → Orphaned w key flight) ?_ ?_ hrun
  · rintro key flight ⟨i, leader, lines, e, v, started, now, hoccurs, -⟩
    exact absurd hoccurs.lt (Nat.not_lt_zero i)
  · rintro hs w x next hrun ih hmove key flight ⟨i, leader, lines, e, habandons⟩
    have hw := run_consistent hrun
    obtain hold | ⟨-, rfl, hsize, started, now, hphase⟩ := abandonsAt_concat hrun habandons
    · exact (ih key flight ⟨i, leader, lines, e, hold⟩).move hw hmove
    · obtain rfl := Option.some.inj (hmove.after.symm.trans (Move.abandon hphase hsize).after)
      exact hw.orphaned (run_numbered hrun) hphase

def RegistersAt (first : Callers) (hs : List Happening) (i : Nat) (leader : Caller)
    (key : CacheKey) (flight : Flight) : Prop :=
  ∃ w, Occurs first hs i (.step leader) w ∧ w.phase leader = .alone key ∧
    w.cache.nextFlight = flight

/-- At a moment of a run the computation of a leader ends. -/
def EndsAt (first : Callers) (hs : List Happening) (i : Nat) (leader : Caller) (key : CacheKey)
    (flight : Flight) (outcome : Except Fault (List DiffLine)) : Prop :=
  ∃ w started, Occurs first hs i (.result leader outcome) w ∧
    w.phase leader = .computing key flight started

/-- At a moment of a run a caller finds its key in the table, where a leader has it. -/
def JoinsAt (first : Callers) (hs : List Happening) (i : Nat) (joiner leader : Caller)
    (key : CacheKey) (flight : Flight) : Prop :=
  ∃ w, Occurs first hs i (.step joiner) w ∧ w.phase joiner = .missed key ∧
    w.cache.inFlight.get? key = some flight ∧ (w.phase leader).leads? = some (key, flight)

theorem EndsAt.concat {i : Nat} (h : EndsAt first hs i c key flight outcome) :
    EndsAt first (hs ++ [x]) i c key flight outcome := by
  obtain ⟨v, started, hoccurs, hphase⟩ := h
  exact ⟨v, started, hoccurs.concat, hphase⟩

theorem endsAt_concat {i : Nat} (hrun : first.run hs = some w)
    (h : EndsAt first (hs ++ [x]) i c key flight outcome) :
    EndsAt first hs i c key flight outcome ∨
      i = hs.length ∧ x = .result c outcome ∧
        ∃ started, w.phase c = .computing key flight started := by
  obtain ⟨v, started, hoccurs, hphase⟩ := h
  obtain hold | ⟨hi, hx, hlast⟩ := occurs_concat hoccurs
  · exact .inl ⟨v, started, hold, hphase⟩
  · obtain rfl := Option.some.inj (hlast.symm.trans hrun)
    exact .inr ⟨hi, hx.symm, started, hphase⟩

theorem Move.results (h : Move w x next) :
    ((∀ c outcome, x ≠ .result c outcome) ∧ next.outcomes = w.outcomes ∧
      ∀ c, (next.phase c).result? = (w.phase c).result?) ∨
    (∃ who key flight started outcome phase, x = .result who outcome ∧
      w.phase who = .computing key flight started ∧ next = w.turn who phase ∧
      phase.result? = some (key, flight, outcome)) ∨
    (∃ who key flight outcome, x = .step who ∧ w.phase who = .withdrawn key flight outcome ∧
      next = { w.turn who (.answered (leaderShare outcome)) with
        outcomes := w.outcomes.put flight outcome }) ∨
    (∃ who key flight started lines now e, x = .step who ∧
      w.phase who = .storing key flight started lines now ∧ estimateSize lines = .error e ∧
      next = w.turn who (.answered (.error (.unsized e)))) := by
  cases h with
  | tick | contains | invalidate | invalidateAll =>
    exact .inl ⟨fun _ _ => Happening.noConfusion, rfl, fun _ => rfl⟩
  | get hfree =>
    have hnone := free_keeps result? hfree rfl (fun _ => rfl) fun _ => rfl
    exact .inl ⟨fun _ _ => Happening.noConfusion, rfl, turn_keeps result? hnone.symm⟩
  | ask hfree =>
    have hnone := free_keeps result? hfree rfl (fun _ => rfl) fun _ => rfl
    exact .inl ⟨fun _ _ => Happening.noConfusion, rfl, turn_keeps result? hnone.symm⟩
  | timeToPeek hphase | peek hphase | timeToLook hphase | find hphase | miss hphase | join hphase
  | take hphase | timeToCheck hphase | findAgain hphase | missAgain hphase | register hphase
  | start hphase | timeToStore hphase | store hphase | withdrawStored hphase
  | withdrawFailed hphase | learn hphase =>
    exact .inl ⟨fun _ _ => Happening.noConfusion, rfl, turn_keeps result? (by rw [hphase]; rfl)⟩
  | succeed hphase | fail hphase =>
    exact .inr (.inl ⟨_, _, _, _, _, _, rfl, hphase, rfl, rfl⟩)
  | publish hphase => exact .inr (.inr (.inl ⟨_, _, _, _, rfl, hphase, rfl⟩))
  | abandon hphase hsize =>
    exact .inr (.inr (.inr ⟨_, _, _, _, _, _, _, rfl, hphase, hsize, rfl⟩))

/-- The results that leaders have or made known are those that their computations came to. -/
structure Reported (first : Callers) (hs : List Happening) (w : Callers) : Prop where
  /-- What a computation came to is the leader's result until it is known, unless it has no size. -/
  result : ∀ i c key flight outcome, EndsAt first hs i c key flight outcome →
    (w.phase c).result? = some (key, flight, outcome) ∨ w.outcomes.get? flight = some outcome ∨
      ∃ j lines e, outcome = .ok lines ∧ AbandonsAt first hs j c key flight lines e
  /-- A result comes from the end of a computation. -/
  ended : ∀ c key flight outcome, (w.phase c).result? = some (key, flight, outcome) →
    ∃ i, EndsAt first hs i c key flight outcome
  /-- No computation ends twice. -/
  once : ∀ i j c d key key' flight outcome outcome', EndsAt first hs i c key flight outcome →
    EndsAt first hs j d key' flight outcome' → i = j

namespace Reported

theorem concluded {started : Generation} (hrun : first.run hs = some w) (hw : Reported first hs w)
    (hnumbered : w.Numbered)
    (hbehind : ∀ key flight, LeftBehind first hs key flight → Orphaned w key flight)
    (hphase : w.phase who = .computing key flight started)
    (hresult : phase.result? = some (key, flight, outcome)) :
    Reported first (hs ++ [.result who outcome]) (w.turn who phase) := by
  have hown : (w.phase who).owns? = some (key, flight) := by rw [hphase]; rfl
  have hnone : (w.phase who).result? = none := by rw [hphase]; rfl
  have hnew : EndsAt first (hs ++ [.result who outcome]) hs.length who key flight outcome :=
    ⟨w, started, occurs_last hrun, hphase⟩
  -- The flight is still owned by one who has no result, so no computation of it ended before.
  have hfresh (i : Nat) (d : Caller) (k : CacheKey) (o : Except Fault (List DiffLine)) :
      ¬ EndsAt first hs i d k flight o := by
    intro hold
    obtain hres | hknown | ⟨j, lines, e, -, habandons⟩ := hw.result i d k flight o hold
    · obtain rfl := hnumbered.single d who k key flight (owns_of_result hres) hown
      rw [hnone] at hres
      cases hres
    · rw [hnumbered.unknown who key flight hown] at hknown
      cases hknown
    · exact (hbehind k flight ⟨j, d, lines, e, habandons⟩).unowned who key hown
  refine ⟨fun i c k f o h => ?_, fun c k f o h => ?_, fun i j c d k k' f o o' hc hd => ?_⟩
  · obtain hold | ⟨-, hx, started', hcomputing⟩ := endsAt_concat hrun h
    · obtain hres | hknown | ⟨j, lines, e, ho, habandons⟩ := hw.result i c k f o hold
      · have hc : c ≠ who := by
          rintro rfl
          rw [hnone] at hres
          cases hres
        exact .inl ((turn_phase_ne w phase hc).symm ▸ hres)
      · exact .inr (.inl hknown)
      · exact .inr (.inr ⟨j, lines, e, ho, habandons.concat⟩)
    · cases hx
      rw [hphase] at hcomputing
      cases hcomputing
      exact .inl ((turn_phase_self w who phase).symm ▸ hresult)
  · obtain ⟨rfl, hself⟩ | ⟨-, hother⟩ := turn_some h
    · rw [hresult] at hself
      cases hself
      exact ⟨hs.length, hnew⟩
    · obtain ⟨i, hold⟩ := hw.ended c k f o hother
      exact ⟨i, hold.concat⟩
  · obtain hoc | ⟨hi, -, startedc, hcomputingc⟩ := endsAt_concat hrun hc
    · obtain hod | ⟨-, hx, startedd, hcomputingd⟩ := endsAt_concat hrun hd
      · exact hw.once i j c d k k' f o o' hoc hod
      · cases hx
        rw [hphase] at hcomputingd
        cases hcomputingd
        exact absurd hoc (hfresh i c k o)
    · obtain hod | ⟨hj, -⟩ := endsAt_concat hrun hd
      · have hf : f = flight := by
          obtain ⟨v, -, hoccurs, -⟩ := hc
          have hx := ((occurs_concat hoccurs).resolve_left fun hold =>
            absurd hold.lt (by omega)).2.1
          cases hx
          rw [hphase] at hcomputingc
          cases hcomputingc
          rfl
        exact absurd (hf ▸ hod) (hfresh j d k' o')
      · exact hi.trans hj.symm

theorem published (hrun : first.run hs = some w) (hw : Reported first hs w)
    (hnumbered : w.Numbered) (hphase : w.phase who = .withdrawn key flight outcome) :
    Reported first (hs ++ [.step who]) { w.turn who (.answered (leaderShare outcome)) with
      outcomes := w.outcomes.put flight outcome } := by
  have hown : (w.phase who).owns? = some (key, flight) := by rw [hphase]; rfl
  have hresult : (w.phase who).result? = some (key, flight, outcome) := by rw [hphase]; rfl
  have hends {i : Nat} {c : Caller} {k : CacheKey} {f : Flight} {o : Except Fault (List DiffLine)}
      (h : EndsAt first (hs ++ [.step who]) i c k f o) : EndsAt first hs i c k f o :=
    (endsAt_concat hrun h).resolve_right fun h => by cases h.2.1
  refine ⟨fun i c k f o h => ?_, fun c k f o h => ?_, fun i j c d k k' f o o' hc hd =>
    hw.once i j c d k k' f o o' (hends hc) (hends hd)⟩
  · obtain hres | hknown | ⟨j, lines, e, ho, habandons⟩ := hw.result i c k f o (hends h)
    · by_cases hc : c = who
      · subst hc
        rw [hresult] at hres
        cases hres
        exact .inr (.inl (Assoc.get?_put_self ..))
      · exact .inl ((turn_phase_ne w _ hc).symm ▸ hres)
    · have hf : flight ≠ f := by
        rintro rfl
        rw [hnumbered.unknown who key flight hown] at hknown
        cases hknown
      exact .inr (.inl ((Assoc.get?_put_ne _ _ hf).trans hknown))
    · exact .inr (.inr ⟨j, lines, e, ho, habandons.concat⟩)
  · obtain ⟨i, hold⟩ := hw.ended c k f o (turn_others (f := result?) rfl h).2
    exact ⟨i, hold.concat⟩

theorem abandoned {started : Generation} {lines : List DiffLine} {now : Seconds} {e : Unencodable}
    (hrun : first.run hs = some w) (hw : Reported first hs w)
    (hphase : w.phase who = .storing key flight started lines now)
    (hsize : estimateSize lines = .error e) :
    Reported first (hs ++ [.step who]) (w.turn who (.answered (.error (.unsized e)))) := by
  have hends {i : Nat} {c : Caller} {k : CacheKey} {f : Flight} {o : Except Fault (List DiffLine)}
      (h : EndsAt first (hs ++ [.step who]) i c k f o) : EndsAt first hs i c k f o :=
    (endsAt_concat hrun h).resolve_right fun h => by cases h.2.1
  refine ⟨fun i c k f o h => ?_, fun c k f o h => ?_, fun i j c d k k' f o o' hc hd =>
    hw.once i j c d k k' f o o' (hends hc) (hends hd)⟩
  · obtain hres | hknown | ⟨j, lines', e', ho, habandons⟩ := hw.result i c k f o (hends h)
    · by_cases hc : c = who
      · subst hc
        rw [hphase] at hres
        cases hres
        exact .inr (.inr ⟨hs.length, lines, e, rfl, w, started, now, occurs_last hrun, hphase,
          hsize⟩)
      · exact .inl ((turn_phase_ne w _ hc).symm ▸ hres)
    · exact .inr (.inl hknown)
    · exact .inr (.inr ⟨j, lines', e', ho, habandons.concat⟩)
  · obtain ⟨i, hold⟩ := hw.ended c k f o (turn_others (f := result?) rfl h).2
    exact ⟨i, hold.concat⟩

theorem move (hrun : first.run hs = some w) (hw : Reported first hs w) (hnumbered : w.Numbered)
    (hbehind : ∀ key flight, LeftBehind first hs key flight → Orphaned w key flight)
    (h : Move w x next) : Reported first (hs ++ [x]) next := by
  obtain ⟨hx, houtcomes, hresults⟩ |
    ⟨who, key, flight, started, outcome, phase, rfl, hphase, rfl, hresult⟩ |
    ⟨who, key, flight, outcome, rfl, hphase, rfl⟩ |
    ⟨who, key, flight, started, lines, now, e, rfl, hphase, hsize, rfl⟩ := h.results
  · have hends {i : Nat} {c : Caller} {k : CacheKey} {f : Flight}
        {o : Except Fault (List DiffLine)} (h : EndsAt first (hs ++ [x]) i c k f o) :
        EndsAt first hs i c k f o :=
      (endsAt_concat hrun h).resolve_right fun h => hx c o h.2.1
    refine ⟨fun i c k f o h => ?_, fun c k f o h => ?_, fun i j c d k k' f o o' hc hd =>
      hw.once i j c d k k' f o o' (hends hc) (hends hd)⟩
    · rw [hresults c, houtcomes]
      refine (hw.result i c k f o (hends h)).imp_right (Or.imp_right ?_)
      exact fun ⟨j, lines, e, ho, habandons⟩ => ⟨j, lines, e, ho, habandons.concat⟩
    · obtain ⟨i, hold⟩ := hw.ended c k f o (hresults c ▸ h)
      exact ⟨i, hold.concat⟩
  · exact concluded hrun hw hnumbered hbehind hphase hresult
  · exact published hrun hw hnumbered hphase
  · exact abandoned hrun hw hphase hsize

end Reported

theorem run_reported {limits : Limits} {time : Seconds}
    (hrun : (startAt limits time).run hs = some w) : Reported (startAt limits time) hs w := by
  have hempty {i : Nat} {c : Caller} {key : CacheKey} {flight : Flight}
      {outcome : Except Fault (List DiffLine)} :
      ¬ EndsAt (startAt limits time) [] i c key flight outcome := by
    rintro ⟨v, started, hoccurs, -⟩
    exact absurd hoccurs.lt (Nat.not_lt_zero i)
  refine run_induction (P := Reported (startAt limits time)) ⟨?_, ?_, ?_⟩ ?_ hrun
  · exact fun _ _ _ _ _ h => absurd h hempty
  · exact fun _ _ _ _ h => by cases h
  · exact fun _ _ _ _ _ _ _ _ _ h => absurd h hempty
  · exact fun hs w x next hrun hw hmove =>
      Reported.move hrun hw (run_numbered hrun) (run_orphaned hrun) hmove

end Callers

end ReviewDiff
