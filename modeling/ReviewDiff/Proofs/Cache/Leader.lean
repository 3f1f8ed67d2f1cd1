import ReviewDiff.Proofs.Cache.Course

/-!
# Leaders of computations

The phases of the callers and the two tables of the cache agree at every moment of a run: the one
who holds the table of computations is the one whose phase says so, a key is in that table as long
as exactly one caller leads its computation, and from before a leader registers its key until it
stores the result the key has no entry. The last holds because a leader stores first and lets go of
the key afterwards, and because nobody registers a key without looking for its entry once more.

A key can be in the table without a leader: the leader came to a result without a size and left the
key behind.
-/

set_option autoImplicit false

namespace ReviewDiff

namespace Phase

def holdsTable : Phase → Bool
  | .holding _ => true
  | .checking _ _ => true
  | .alone _ => true
  | .registered _ _ => true
  | _ => false

/-- The key that a caller holds the table for and has not registered. -/
def enters? : Phase → Option CacheKey
  | .holding key => some key
  | .checking key _ => some key
  | .alone key => some key
  | _ => none

def leads? : Phase → Option (CacheKey × Flight)
  | .registered key flight => some (key, flight)
  | .computing key flight _ => some (key, flight)
  | .computed key flight _ _ => some (key, flight)
  | .storing key flight _ _ _ => some (key, flight)
  | .stored key flight _ => some (key, flight)
  | .failed key flight _ => some (key, flight)
  | _ => none

def expects? : Phase → Option CacheKey
  | .alone key => some key
  | .registered key _ => some key
  | .computing key _ _ => some key
  | .computed key _ _ _ => some key
  | .storing key _ _ _ _ => some key
  | _ => none

variable {phase : Phase} {key : CacheKey}

theorem holdsTable_of_enters (h : phase.enters? = some key) : phase.holdsTable = true := by
  cases phase <;> first | rfl | cases h

theorem enters_or_leads (h : phase.expects? = some key) :
    phase.enters? = some key ∨ ∃ flight, phase.leads? = some (key, flight) := by
  cases phase <;> cases h <;> first | exact .inl rfl | exact .inr ⟨_, rfl⟩

end Phase

namespace Callers

open DiffCache Phase

/-- The phases of the callers and the tables of the cache agree. -/
structure Consistent (w : Callers) : Prop where
  holder : ∀ c, w.holder = some c ↔ (w.phase c).holdsTable = true
  entered : ∀ c key, (w.phase c).enters? = some key → w.cache.inFlight.get? key = none
  inFlight : ∀ c key flight, (w.phase c).leads? = some (key, flight) →
    w.cache.inFlight.get? key = some flight
  single : ∀ c d key flight flight', (w.phase c).leads? = some (key, flight) →
    (w.phase d).leads? = some (key, flight') → c = d
  bare : ∀ c key, (w.phase c).expects? = some key → w.cache.find? key = none

variable {w next : Callers} {who : Caller} {phase : Phase}

theorem startAt_consistent (limits : Limits) (time : Seconds) :
    (startAt limits time).Consistent where
  holder _ := ⟨nofun, nofun⟩
  entered _ _ := nofun
  inFlight _ _ _ := nofun
  single _ _ _ _ _ := nofun
  bare _ _ := nofun

namespace Consistent

theorem turn {holder : Option Caller} (hw : w.Consistent)
    (hself : holder = some who ↔ phase.holdsTable = true)
    (hothers : ∀ c, c ≠ who → (holder = some c ↔ w.holder = some c))
    (hleads : ∀ key flight, phase.leads? = some (key, flight) →
      (w.phase who).leads? = some (key, flight))
    (henters : ∀ key, phase.enters? = some key → w.cache.inFlight.get? key = none)
    (hexpects : ∀ key, phase.expects? = some key → w.cache.find? key = none) :
    Consistent { w.turn who phase with holder := holder } := by
  have hlead : ∀ c key flight, ((w.turn who phase).phase c).leads? = some (key, flight) →
      (w.phase c).leads? = some (key, flight) :=
    turn_forall (Q := fun c phase => ∀ key flight, phase.leads? = some (key, flight) →
      (w.phase c).leads? = some (key, flight)) hleads fun _ _ _ _ h => h
  have hholder : ∀ c, holder = some c ↔ ((w.turn who phase).phase c).holdsTable = true :=
    turn_forall (Q := fun c phase => holder = some c ↔ phase.holdsTable = true) hself
      fun c hc => (hothers c hc).trans (hw.holder c)
  have hentered : ∀ c key, ((w.turn who phase).phase c).enters? = some key →
      w.cache.inFlight.get? key = none :=
    turn_forall (Q := fun _ phase => ∀ key, phase.enters? = some key →
      w.cache.inFlight.get? key = none) henters fun c _ => hw.entered c
  have hbare : ∀ c key, ((w.turn who phase).phase c).expects? = some key →
      w.cache.find? key = none :=
    turn_forall (Q := fun _ phase => ∀ key, phase.expects? = some key →
      w.cache.find? key = none) hexpects fun c _ => hw.bare c
  refine ⟨hholder, hentered, fun c key flight h => ?_, fun c d key flight flight' hc hd => ?_,
    hbare⟩
  · exact hw.inFlight c key flight (hlead c key flight h)
  · exact hw.single c d key flight flight' (hlead c _ _ hc) (hlead d _ _ hd)

theorem quiet (hw : w.Consistent) (hholds : phase.holdsTable = (w.phase who).holdsTable)
    (hleads : phase.leads? = (w.phase who).leads?)
    (henters : ∀ key, phase.enters? = some key → (w.phase who).enters? = some key)
    (hexpects : ∀ key, phase.expects? = some key → (w.phase who).expects? = some key) :
    (w.turn who phase).Consistent :=
  hw.turn (hholds ▸ hw.holder who) (fun _ _ => Iff.rfl) (fun _ _ h => hleads ▸ h)
    (fun key h => hw.entered who key (henters key h))
    (fun key h => hw.bare who key (hexpects key h))

theorem cached {cache : DiffCache} (hw : w.Consistent)
    (hflights : cache.inFlight = w.cache.inFlight)
    (hbare : ∀ c key, (w.phase c).expects? = some key → cache.find? key = none) :
    Consistent { w with cache := cache } where
  holder := hw.holder
  entered c key h := (congrArg (·.get? key) hflights).trans (hw.entered c key h)
  inFlight c key flight h := (congrArg (·.get? key) hflights).trans (hw.inFlight c key flight h)
  single := hw.single
  bare := hbare

theorem applied (hw : w.Consistent) (operation : Operation)
    (hkeeps : operation.changesFlights = false) (hstores : operation.stores? = none) :
    Consistent { w with cache := w.cache.apply operation } := by
  refine hw.cached (apply_inFlight hkeeps).1 fun c key h => apply_absent (hw.bare c key h) ?_
  rw [hstores]
  exact nofun

theorem lookedUp (hw : w.Consistent) (counted : Bool) (now : Seconds) (key : CacheKey) :
    Consistent { w with cache := (w.cache.lookup counted now key).2 } :=
  hw.applied (.lookup counted now key) rfl rfl

theorem enters_holder (hw : w.Consistent) {c : Caller} {key : CacheKey}
    (h : (w.phase c).enters? = some key) : w.holder = some c :=
  (hw.holder c).mpr (holdsTable_of_enters h)

theorem taken (hw : w.Consistent) {key : CacheKey} (hholder : w.holder = none)
    (habsent : w.cache.inFlight.get? key = none) :
    Consistent { w.turn who (.holding key) with holder := some who } := by
  refine hw.turn ⟨fun _ => rfl, fun _ => rfl⟩ (fun c hc => ?_) nofun ?_ nofun
  · rw [hholder]
    exact ⟨fun h => absurd (Option.some.inj h).symm hc, nofun⟩
  · rintro k ⟨⟩
    exact habsent

theorem released (hw : w.Consistent) (hholds : (w.phase who).holdsTable = true)
    (hfree : phase.holdsTable = false) (hleads : phase.leads? = (w.phase who).leads?)
    (henters : phase.enters? = none)
    (hexpects : ∀ key, phase.expects? = some key → (w.phase who).expects? = some key) :
    Consistent { w.turn who phase with holder := none } := by
  have hholder := (hw.holder who).mpr hholds
  refine hw.turn ⟨nofun, fun h => ?_⟩ (fun c hc => ?_) (fun _ _ h => hleads ▸ h) (fun key h => ?_)
    fun key h => hw.bare who key (hexpects key h)
  · rw [hfree] at h
    cases h
  · rw [hholder]
    exact ⟨nofun, fun h => absurd (Option.some.inj h).symm hc⟩
  · rw [henters] at h
    cases h

theorem checked (hw : w.Consistent) {key : CacheKey} {now : Seconds}
    (hphase : w.phase who = .checking key now) (hmiss : (w.cache.lookup false now key).1 = none) :
    (w.turnWith who (.alone key, (w.cache.lookup false now key).2)).Consistent := by
  have hlooked := hw.lookedUp false now key
  refine hlooked.turn ?_ (fun _ _ => Iff.rfl) nofun ?_ ?_
  · have hholder := hlooked.holder who
    rw [hphase] at hholder
    exact hholder
  · rintro k ⟨⟩
    exact hlooked.entered who key (by rw [hphase]; rfl)
  · rintro k ⟨⟩
    exact lookup_miss hmiss

theorem holder_turn (hw : w.Consistent) (hholds : phase.holdsTable = (w.phase who).holdsTable)
    (c : Caller) : w.holder = some c ↔ ((w.turn who phase).phase c).holdsTable = true := by
  rw [turn_keeps holdsTable hholds c]
  exact hw.holder c

theorem entered_ne (hw : w.Consistent) {c : Caller} {key k : CacheKey} {flight : Flight}
    (henters : (w.phase who).enters? = some key) (hleads : (w.phase c).leads? = some (k, flight)) :
    key ≠ k := by
  rintro rfl
  have habsent := hw.entered who key henters
  rw [hw.inFlight c key flight hleads] at habsent
  cases habsent

theorem leads_registered {c : Caller} {key k : CacheKey} {flight flight' : Flight}
    (hphase : w.phase who = .alone key) :
    ((w.turn who (.registered key flight)).phase c).leads? = some (k, flight') ↔
      (c = who ∧ k = key ∧ flight' = flight) ∨ (w.phase c).leads? = some (k, flight') := by
  constructor
  · intro h
    obtain ⟨rfl, hself⟩ | ⟨-, hold⟩ := turn_some h
    · cases hself
      exact .inl ⟨rfl, rfl, rfl⟩
    · exact .inr hold
  · rintro (⟨rfl, rfl, rfl⟩ | hold)
    · rw [turn_phase_self]
      rfl
    · have hc : c ≠ who := by
        rintro rfl
        rw [hphase] at hold
        cases hold
      rw [turn_phase_ne w _ hc]
      exact hold

theorem registered (hw : w.Consistent) {key : CacheKey} (hphase : w.phase who = .alone key) :
    (w.turnWith who (.registered key w.cache.nextFlight, (w.cache.register key).2)).Consistent := by
  have hholder : w.holder = some who := (hw.holder who).mpr (by rw [hphase]; rfl)
  have henters : (w.phase who).enters? = some key := by rw [hphase]; rfl
  have hholds :
      (Phase.registered key w.cache.nextFlight).holdsTable = (w.phase who).holdsTable := by
    rw [hphase]
    rfl
  have hexpects (c : Caller) :
      ((w.turn who (.registered key w.cache.nextFlight)).phase c).expects? =
        (w.phase c).expects? := turn_keeps expects? (by rw [hphase]; rfl) c
  refine ⟨fun c => ?_, fun c k h => ?_, fun c k flight h => ?_,
    fun c d k flight flight' hc hd => ?_, fun c k h => ?_⟩
  · exact hw.holder_turn hholds c
  · obtain ⟨hc, henters⟩ := turn_others (f := enters?) rfl h
    exact absurd (Option.some.inj ((hw.enters_holder henters).symm.trans hholder)) hc
  · obtain ⟨rfl, rfl, rfl⟩ | hold := (leads_registered hphase).mp h
    · exact Assoc.get?_put_self ..
    · exact (Assoc.get?_put_ne _ _ (hw.entered_ne henters hold)).trans (hw.inFlight c k flight hold)
  · obtain ⟨rfl, rfl, rfl⟩ | hoc := (leads_registered hphase).mp hc
    · obtain ⟨rfl, -, -⟩ | hod := (leads_registered hphase).mp hd
      · rfl
      · exact absurd rfl (hw.entered_ne henters hod)
    · obtain ⟨rfl, rfl, rfl⟩ | hod := (leads_registered hphase).mp hd
      · exact absurd rfl (hw.entered_ne henters hoc)
      · exact hw.single c d k flight flight' hoc hod
  · exact hw.bare c k ((hexpects c).symm.trans h)

theorem stored (hw : w.Consistent) {key : CacheKey} {flight : Flight} {started : Generation}
    {lines : List DiffLine} {now : Seconds}
    (hphase : w.phase who = .storing key flight started lines now) :
    (w.turnWith who
      (.stored key flight lines, (w.cache.store key lines started now).2)).Consistent := by
  have hlead : (w.phase who).leads? = some (key, flight) := by rw [hphase]; rfl
  have hturned : (w.turn who (.stored key flight lines)).Consistent := by
    refine hw.quiet ?_ ?_ nofun nofun <;> rw [hphase] <;> rfl
  refine hturned.cached (store_frame key lines started now w.cache).2.2.2.1 fun c k h => ?_
  obtain ⟨hc, hexpects⟩ := turn_others (f := expects?) rfl h
  have hk : k ≠ key := by
    obtain henters | ⟨flight', hleads⟩ := enters_or_leads hexpects
    · exact hw.entered_ne henters hlead
    · rintro rfl
      exact hc (hw.single c who k flight' flight hleads hlead)
  have habsent : (w.cache.apply (.store key lines started now)).find? k = none := by
    refine apply_absent (hw.bare c k hexpects) ?_
    rintro _ ⟨⟩
    exact hk rfl
  exact habsent

theorem withdrawn (hw : w.Consistent) {key : CacheKey} {flight : Flight}
    {outcome : Except Fault (List DiffLine)} (hlead : (w.phase who).leads? = some (key, flight))
    (hholder : w.holder = none) :
    (w.turnWith who (.withdrawn key flight outcome, w.cache.unregister key)).Consistent := by
  have hfree (c : Caller) : (w.phase c).holdsTable = false := by
    have hc := hw.holder c
    rw [hholder] at hc
    exact Bool.eq_false_iff.mpr fun h => nomatch hc.mpr h
  have hholds : (Phase.withdrawn key flight outcome).holdsTable = (w.phase who).holdsTable :=
    (hfree who).symm
  have hturned {c : Caller} {k : CacheKey} {flight' : Flight}
      (h : ((w.turn who (.withdrawn key flight outcome)).phase c).leads? = some (k, flight')) :
      (w.phase c).leads? = some (k, flight') ∧ key ≠ k := by
    obtain ⟨hc, hold⟩ := turn_others (f := leads?) rfl h
    refine ⟨hold, ?_⟩
    rintro rfl
    exact hc (hw.single c who key flight' flight hold hlead)
  refine ⟨fun c => ?_, fun c k h => ?_, fun c k flight' h => ?_, fun c d k f f' hc hd => ?_,
    fun c k h => ?_⟩
  · exact hw.holder_turn hholds c
  · have henters : (w.phase c).enters? = some k := (turn_others (f := enters?) rfl h).2
    exact absurd (holdsTable_of_enters henters) (by rw [hfree c]; exact Bool.false_ne_true)
  · obtain ⟨hold, hk⟩ := hturned h
    exact (Assoc.get?_remove_ne _ hk).trans (hw.inFlight c k flight' hold)
  · exact hw.single c d k f f' (hturned hc).1 (hturned hd).1
  · exact hw.bare c k (turn_others (f := expects?) rfl h).2

theorem free_quiet (hw : w.Consistent) (hfree : w.isFree who = true)
    (hholds : phase.holdsTable = false) (hleads : phase.leads? = none)
    (henters : phase.enters? = none) (hexpects : phase.expects? = none) :
    (w.turn who phase).Consistent := by
  have hholdsNot := free_keeps holdsTable hfree rfl (fun _ => rfl) fun _ => rfl
  have hleadsNot := free_keeps leads? hfree rfl (fun _ => rfl) fun _ => rfl
  refine hw.quiet (hholds.trans hholdsNot.symm) (hleads.trans hleadsNot.symm) (fun key h => ?_)
    fun key h => ?_
  · rw [henters] at h
    cases h
  · rw [hexpects] at h
    cases h

theorem move {x : Happening} (hw : w.Consistent) (h : Move w x next) : next.Consistent := by
  cases h with
  | tick => exact ⟨hw.holder, hw.entered, hw.inFlight, hw.single, hw.bare⟩
  | contains => exact hw
  | invalidate => exact hw.applied (.invalidate _) rfl rfl
  | invalidateAll => exact hw.applied .invalidateAll rfl rfl
  | get hfree => exact hw.free_quiet hfree rfl rfl rfl rfl
  | ask hfree => exact hw.free_quiet hfree rfl rfl rfl rfl
  | timeToPeek hphase => refine hw.quiet ?_ ?_ nofun nofun <;> rw [hphase] <;> rfl
  | peek hphase => refine (hw.lookedUp ..).quiet ?_ ?_ nofun nofun <;> rw [hphase] <;> rfl
  | timeToLook hphase => refine hw.quiet ?_ ?_ nofun nofun <;> rw [hphase] <;> rfl
  | find hphase => refine (hw.lookedUp ..).quiet ?_ ?_ nofun nofun <;> rw [hphase] <;> rfl
  | miss hphase => refine (hw.lookedUp ..).quiet ?_ ?_ nofun nofun <;> rw [hphase] <;> rfl
  | join hphase => refine hw.quiet ?_ ?_ nofun nofun <;> rw [hphase] <;> rfl
  | take _ hholder habsent => exact hw.taken hholder habsent
  | timeToCheck hphase =>
    refine hw.quiet ?_ ?_ (fun _ h => ?_) nofun <;> rw [hphase]
    · rfl
    · rfl
    · exact h
  | findAgain hphase =>
    refine (hw.lookedUp ..).released ?_ rfl ?_ rfl nofun <;> rw [hphase] <;> rfl
  | missAgain hphase hmiss => exact hw.checked hphase hmiss
  | register hphase => exact hw.registered hphase
  | start hphase =>
    refine hw.released ?_ rfl ?_ rfl (fun _ h => ?_) <;> rw [hphase]
    · rfl
    · rfl
    · exact h
  | succeed hphase =>
    refine hw.quiet ?_ ?_ nofun (fun _ h => ?_) <;> rw [hphase]
    · rfl
    · rfl
    · exact h
  | fail hphase => refine hw.quiet ?_ ?_ nofun nofun <;> rw [hphase] <;> rfl
  | timeToStore hphase =>
    refine hw.quiet ?_ ?_ nofun (fun _ h => ?_) <;> rw [hphase]
    · rfl
    · rfl
    · exact h
  | store hphase => exact hw.stored hphase
  | @abandon who _ _ _ _ _ _ hphase =>
    have hholder := hw.holder who
    rw [hphase] at hholder
    exact hw.turn hholder (fun _ _ => Iff.rfl) nofun nofun nofun
  | withdrawStored hphase hholder => exact hw.withdrawn (by rw [hphase]; rfl) hholder
  | withdrawFailed hphase hholder => exact hw.withdrawn (by rw [hphase]; rfl) hholder
  | @publish who _ _ outcome hphase =>
    have hturned : (w.turn who (.answered (leaderShare outcome))).Consistent := by
      refine hw.quiet ?_ ?_ nofun nofun <;> rw [hphase] <;> rfl
    exact ⟨hturned.holder, hturned.entered, hturned.inFlight, hturned.single, hturned.bare⟩
  | learn hphase => refine hw.quiet ?_ ?_ nofun nofun <;> rw [hphase] <;> rfl

theorem run (hw : w.Consistent) {hs : List Happening} (hrun : w.run hs = some next) :
    next.Consistent :=
  run_induction (P := fun _ w => w.Consistent) hw (fun _ _ _ _ _ hw hmove => hw.move hmove) hrun

end Consistent

theorem run_consistent {limits : Limits} {time : Seconds} {hs : List Happening}
    (hrun : (startAt limits time).run hs = some w) : w.Consistent :=
  (startAt_consistent limits time).run hrun

/-- What a move means for the leaders: nothing, or a caller becomes one, or one takes its key out of
the table or leaves it behind. -/
theorem Move.leads {x : Happening} (h : Move w x next) :
    (next.cache.inFlight = w.cache.inFlight ∧ ∀ c, (next.phase c).leads? = (w.phase c).leads?) ∨
    (∃ who key, w.phase who = .alone key ∧
      next = w.turnWith who (.registered key w.cache.nextFlight, (w.cache.register key).2)) ∨
    (∃ who key flight outcome, (w.phase who).leads? = some (key, flight) ∧
      next = w.turnWith who (.withdrawn key flight outcome, w.cache.unregister key)) ∨
    (∃ who key flight started lines now e, x = .step who ∧
      w.phase who = .storing key flight started lines now ∧ estimateSize lines = .error e ∧
      next = w.turn who (.answered (.error (.unsized e)))) := by
  cases h with
  | tick | contains | invalidate | invalidateAll => exact .inl ⟨rfl, fun _ => rfl⟩
  | get hfree | ask hfree =>
    have hnone := free_keeps leads? hfree rfl (fun _ => rfl) fun _ => rfl
    exact .inl ⟨rfl, turn_keeps leads? hnone.symm⟩
  | peek hphase | find hphase | miss hphase | findAgain hphase | missAgain hphase =>
    exact .inl ⟨(lookup_frame ..).2.2.2.1, turn_keeps leads? (by rw [hphase]; rfl)⟩
  | store hphase =>
    exact .inl ⟨(store_frame ..).2.2.2.1, turn_keeps leads? (by rw [hphase]; rfl)⟩
  | timeToPeek hphase | timeToLook hphase | join hphase | take hphase | timeToCheck hphase
  | start hphase | succeed hphase | fail hphase | timeToStore hphase | publish hphase
  | learn hphase => exact .inl ⟨rfl, turn_keeps leads? (by rw [hphase]; rfl)⟩
  | register hphase => exact .inr (.inl ⟨_, _, hphase, rfl⟩)
  | withdrawStored hphase | withdrawFailed hphase =>
    exact .inr (.inr (.inl ⟨_, _, _, _, by rw [hphase]; rfl, rfl⟩))
  | abandon hphase hsize =>
    exact .inr (.inr (.inr ⟨_, _, _, _, _, _, _, rfl, hphase, hsize, rfl⟩))

/-- At a moment of a run a leader finds that its result has no size. -/
def AbandonsAt (first : Callers) (hs : List Happening) (i : Nat) (leader : Caller) (key : CacheKey)
    (flight : Flight) (lines : List DiffLine) (e : Unencodable) : Prop :=
  ∃ w started now, Occurs first hs i (.step leader) w ∧
    w.phase leader = .storing key flight started lines now ∧ estimateSize lines = .error e

def LeftBehind (first : Callers) (hs : List Happening) (key : CacheKey) (flight : Flight) : Prop :=
  ∃ i leader lines e, AbandonsAt first hs i leader key flight lines e

theorem AbandonsAt.concat {first : Callers} {hs : List Happening} {x : Happening} {i : Nat}
    {key : CacheKey} {flight : Flight} {lines : List DiffLine} {e : Unencodable}
    (h : AbandonsAt first hs i who key flight lines e) :
    AbandonsAt first (hs ++ [x]) i who key flight lines e := by
  obtain ⟨v, started, now, hoccurs, hphase, hsize⟩ := h
  exact ⟨v, started, now, hoccurs.concat, hphase, hsize⟩

theorem LeftBehind.concat {first : Callers} {hs : List Happening} {x : Happening} {key : CacheKey}
    {flight : Flight} (h : LeftBehind first hs key flight) :
    LeftBehind first (hs ++ [x]) key flight := by
  obtain ⟨i, leader, lines, e, habandons⟩ := h
  exact ⟨i, leader, lines, e, habandons.concat⟩

theorem run_led {limits : Limits} {time : Seconds} {hs : List Happening}
    (hrun : (startAt limits time).run hs = some w) :
    ∀ key flight, w.cache.inFlight.get? key = some flight →
      (∃ c, (w.phase c).leads? = some (key, flight)) ∨
        LeftBehind (startAt limits time) hs key flight := by
  refine run_induction (P := fun hs w => ∀ key flight, w.cache.inFlight.get? key = some flight →
    (∃ c, (w.phase c).leads? = some (key, flight)) ∨
      LeftBehind (startAt limits time) hs key flight) (fun _ _ h => by cases h) ?_ hrun
  intro hs w x next hrun ih hmove k f hfound
  obtain ⟨htable, hleads⟩ | ⟨who, key, hphase, rfl⟩ | ⟨who, key, flight, outcome, hlead, rfl⟩ |
    ⟨who, key, flight, started, lines, now, e, rfl, hphase, hsize, rfl⟩ := hmove.leads
  · exact (ih k f (htable ▸ hfound)).imp (fun ⟨c, hc⟩ => ⟨c, (hleads c).trans hc⟩) (·.concat)
  · by_cases hk : key = k
    · subst hk
      have hf : f = w.cache.nextFlight :=
        Option.some.inj (hfound.symm.trans (Assoc.get?_put_self ..))
      exact .inl ⟨who, (Consistent.leads_registered hphase).mpr (.inl ⟨rfl, rfl, hf⟩)⟩
    · refine (ih k f ((Assoc.get?_put_ne _ _ hk).symm.trans hfound)).imp ?_ (·.concat)
      exact fun ⟨c, hc⟩ => ⟨c, (Consistent.leads_registered hphase).mpr (.inr hc)⟩
  · have hk : key ≠ k := by
      rintro rfl
      exact nomatch hfound.symm.trans (Assoc.get?_remove_self w.cache.inFlight key)
    refine (ih k f ((Assoc.get?_remove_ne _ hk).symm.trans hfound)).imp ?_ (·.concat)
    rintro ⟨c, hc⟩
    have hne : c ≠ who := by
      rintro rfl
      exact hk (congrArg Prod.fst (Option.some.inj (hlead.symm.trans hc)))
    exact ⟨c, (congrArg leads? (turn_phase_ne w _ hne)).trans hc⟩
  · obtain ⟨c, hc⟩ | hbehind := ih k f hfound
    · by_cases hne : c = who
      · subst hne
        rw [hphase] at hc
        cases hc
        exact .inr ⟨hs.length, c, lines, e, w, started, now, occurs_last hrun, hphase, hsize⟩
      · exact .inl ⟨c, (congrArg leads? (turn_phase_ne w _ hne)).trans hc⟩
    · exact .inr hbehind.concat

end Callers

end ReviewDiff
