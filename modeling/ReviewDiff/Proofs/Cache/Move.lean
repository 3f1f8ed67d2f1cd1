import ReviewDiff.Cache.Callers
import ReviewDiff.Proofs.Cache.Operation

/-!
# Moves of callers

Everything that can happen to callers of one cache, one constructor a kind: what has to hold before
it and what it leaves. All that is proved about runs goes by these cases. A move does at most one
operation on the cache and changes the phase of at most one caller.
-/

set_option autoImplicit false

namespace ReviewDiff.Callers

open DiffCache

/-- A move that a happening makes. -/
inductive Move (w : Callers) : Happening → Callers → Prop where
  | tick {time : Seconds} : w.now.le time = true → Move w (.tick time) { w with now := time }
  | contains {key : CacheKey} : Move w (.contains key) w
  | invalidate {path : Points} :
    Move w (.invalidate path) { w with cache := (w.cache.invalidate path).2 }
  | invalidateAll : Move w .invalidateAll { w with cache := w.cache.invalidateAll.2 }
  | get {who : Caller} {key : CacheKey} : w.isFree who = true →
    Move w (.get who key) (w.turn who (.getting key))
  | ask {who : Caller} {key : CacheKey} : w.isFree who = true →
    Move w (.ask who key) (w.turn who (.asking key))
  | timeToPeek {who : Caller} {key : CacheKey} : w.phase who = .getting key →
    Move w (.step who) (w.turn who (.peeking key w.now))
  | peek {who : Caller} {key : CacheKey} {now : Seconds} : w.phase who = .peeking key now →
    Move w (.step who) (w.turnWith who
      (.got (w.cache.lookup true now key).1, (w.cache.lookup true now key).2))
  | timeToLook {who : Caller} {key : CacheKey} : w.phase who = .asking key →
    Move w (.step who) (w.turn who (.looking key w.now))
  | find {who : Caller} {key : CacheKey} {now : Seconds} {lines : List DiffLine} :
    w.phase who = .looking key now → (w.cache.lookup true now key).1 = some lines →
    Move w (.step who) (w.turnWith who (.answered (.ok lines), (w.cache.lookup true now key).2))
  | miss {who : Caller} {key : CacheKey} {now : Seconds} :
    w.phase who = .looking key now → (w.cache.lookup true now key).1 = none →
    Move w (.step who) (w.turnWith who (.missed key, (w.cache.lookup true now key).2))
  | join {who : Caller} {key : CacheKey} {flight : Flight} :
    w.phase who = .missed key → w.holder = none → w.cache.inFlight.get? key = some flight →
    Move w (.step who) (w.turn who (.waiting flight))
  | take {who : Caller} {key : CacheKey} :
    w.phase who = .missed key → w.holder = none → w.cache.inFlight.get? key = none →
    Move w (.step who) { w.turn who (.holding key) with holder := some who }
  | timeToCheck {who : Caller} {key : CacheKey} : w.phase who = .holding key →
    Move w (.step who) (w.turn who (.checking key w.now))
  | findAgain {who : Caller} {key : CacheKey} {now : Seconds} {lines : List DiffLine} :
    w.phase who = .checking key now → (w.cache.lookup false now key).1 = some lines →
    Move w (.step who) { w.turnWith who
      (.answered (.ok lines), (w.cache.lookup false now key).2) with holder := none }
  | missAgain {who : Caller} {key : CacheKey} {now : Seconds} :
    w.phase who = .checking key now → (w.cache.lookup false now key).1 = none →
    Move w (.step who) (w.turnWith who (.alone key, (w.cache.lookup false now key).2))
  | register {who : Caller} {key : CacheKey} : w.phase who = .alone key →
    Move w (.step who) (w.turnWith who
      (.registered key w.cache.nextFlight, (w.cache.register key).2))
  | start {who : Caller} {key : CacheKey} {flight : Flight} : w.phase who = .registered key flight →
    Move w (.step who)
      { w.turn who (.computing key flight (w.cache.generationOf key)) with holder := none }
  | succeed {who : Caller} {key : CacheKey} {flight : Flight} {started : Generation}
    {lines : List DiffLine} : w.phase who = .computing key flight started →
    Move w (.result who (.ok lines)) (w.turn who (.computed key flight started lines))
  | fail {who : Caller} {key : CacheKey} {flight : Flight} {started : Generation} {cause : Fault} :
    w.phase who = .computing key flight started →
    Move w (.result who (.error cause)) (w.turn who (.failed key flight cause))
  | timeToStore {who : Caller} {key : CacheKey} {flight : Flight} {started : Generation}
    {lines : List DiffLine} : w.phase who = .computed key flight started lines →
    Move w (.step who) (w.turn who (.storing key flight started lines w.now))
  | store {who : Caller} {key : CacheKey} {flight : Flight} {started : Generation}
    {lines : List DiffLine} {now : Seconds} {size : Nat} :
    w.phase who = .storing key flight started lines now → estimateSize lines = .ok size →
    Move w (.step who) (w.turnWith who
      (.stored key flight lines, (w.cache.store key lines started now).2))
  | abandon {who : Caller} {key : CacheKey} {flight : Flight} {started : Generation}
    {lines : List DiffLine} {now : Seconds} {e : Unencodable} :
    w.phase who = .storing key flight started lines now → estimateSize lines = .error e →
    Move w (.step who) (w.turn who (.answered (.error (.unsized e))))
  | withdrawStored {who : Caller} {key : CacheKey} {flight : Flight} {lines : List DiffLine} :
    w.phase who = .stored key flight lines → w.holder = none →
    Move w (.step who) (w.turnWith who
      (.withdrawn key flight (.ok lines), w.cache.unregister key))
  | withdrawFailed {who : Caller} {key : CacheKey} {flight : Flight} {cause : Fault} :
    w.phase who = .failed key flight cause → w.holder = none →
    Move w (.step who) (w.turnWith who
      (.withdrawn key flight (.error cause), w.cache.unregister key))
  | publish {who : Caller} {key : CacheKey} {flight : Flight}
    {outcome : Except Fault (List DiffLine)} : w.phase who = .withdrawn key flight outcome →
    Move w (.step who) { w.turn who (.answered (leaderShare outcome)) with
      outcomes := w.outcomes.put flight outcome }
  | learn {who : Caller} {flight : Flight} {outcome : Except Fault (List DiffLine)} :
    w.phase who = .waiting flight → w.outcomes.get? flight = some outcome →
    Move w (.step who) (w.turn who (.answered (sharedBy outcome)))

variable {w next : Callers} {who : Caller}

theorem takeTable_move {key : CacheKey} (hphase : w.phase who = .missed key)
    (h : w.takeTable who key = some next) : Move w (.step who) next := by
  rw [takeTable] at h
  split at h
  · cases h
  · cases h
    exact .join hphase ‹_› ‹_›
  · cases h
    exact .take hphase ‹_› ‹_›

theorem withdraw_some {key : CacheKey} {flight : Flight} {outcome : Except Fault (List DiffLine)}
    (h : w.withdraw who key flight outcome = some next) :
    w.holder = none ∧
      next = w.turnWith who (.withdrawn key flight outcome, w.cache.unregister key) := by
  rw [withdraw] at h
  split at h
  · cases h
  · exact ⟨‹_›, (Option.some.inj h).symm⟩

theorem storing_phase {c : DiffCache} {lines : List DiffLine} {size : Nat}
    (h : estimateSize lines = .ok size) (key : CacheKey) (flight : Flight) (started : Generation)
    (now : Seconds) :
    (c.store key lines started now).1.phase key flight lines = .stored key flight lines := by
  simp only [DiffCache.store, h]
  split
  · rfl
  · split <;> rfl

theorem storing_move {key : CacheKey} {flight : Flight} {started : Generation}
    {lines : List DiffLine} {now : Seconds}
    (hphase : w.phase who = .storing key flight started lines now) :
    Move w (.step who) (w.turnWith who ((w.cache.store key lines started now).1.phase key flight
      lines, (w.cache.store key lines started now).2)) := by
  cases hsize : estimateSize lines with
  | error e =>
    rw [store_unsized hsize]
    exact .abandon hphase hsize
  | ok size =>
    rw [storing_phase hsize]
    exact .store hphase hsize

theorem step_move (h : w.step who = some next) : Move w (.step who) next := by
  rw [step] at h
  split at h
  case h_1 hphase => cases h; exact .timeToPeek hphase
  case h_2 hphase => cases h; exact .peek hphase
  case h_3 hphase => cases h; exact .timeToLook hphase
  case h_4 key now hphase =>
    split at h
    case h_1 lines cache hlookup =>
      cases h
      have hmove : Move w (.step who) (w.turnWith who
          (.answered (.ok lines), (w.cache.lookup true now key).2)) :=
        .find hphase (by rw [hlookup])
      rwa [hlookup] at hmove
    case h_2 cache hlookup =>
      cases h
      have hmove := Move.miss hphase (by rw [hlookup])
      rwa [hlookup] at hmove
  case h_5 hphase => exact takeTable_move hphase h
  case h_6 hphase => cases h; exact .timeToCheck hphase
  case h_7 key now hphase =>
    split at h
    case h_1 lines cache hlookup =>
      cases h
      have hmove : Move w (.step who) { w.turnWith who
          (.answered (.ok lines), (w.cache.lookup false now key).2) with holder := none } :=
        .findAgain hphase (by rw [hlookup])
      rwa [hlookup] at hmove
    case h_2 cache hlookup =>
      cases h
      have hmove := Move.missAgain hphase (by rw [hlookup])
      rwa [hlookup] at hmove
  case h_8 hphase => cases h; exact .register hphase
  case h_9 hphase => cases h; exact .start hphase
  case h_10 hphase => cases h; exact .timeToStore hphase
  case h_11 hphase => cases h; exact storing_move hphase
  case h_12 hphase =>
    obtain ⟨hholder, rfl⟩ := withdraw_some h
    exact .withdrawStored hphase hholder
  case h_13 hphase =>
    obtain ⟨hholder, rfl⟩ := withdraw_some h
    exact .withdrawFailed hphase hholder
  case h_14 hphase => cases h; exact .publish hphase
  case h_15 hphase =>
    obtain ⟨outcome, hknown, rfl⟩ := Option.map_eq_some_iff.mp h
    exact .learn hphase hknown
  all_goals cases h

theorem finish_move {outcome : Except Fault (List DiffLine)}
    (h : w.finish who outcome = some next) : Move w (.result who outcome) next := by
  rw [finish.eq_def] at h
  split at h
  case h_1 hphase => cases h; exact .succeed hphase
  case h_2 hphase => cases h; exact .fail hphase
  case h_3 => cases h

theorem after_move {x : Happening} (h : w.after x = some next) : Move w x next := by
  cases x with
  | tick time =>
    rw [after] at h
    split at h
    · cases h
      exact .tick ‹_›
    · cases h
  | get who key =>
    rw [after] at h
    split at h
    · cases h
      exact .get ‹_›
    · cases h
  | ask who key =>
    rw [after] at h
    split at h
    · cases h
      exact .ask ‹_›
    · cases h
  | step who => exact step_move h
  | result who outcome => exact finish_move h
  | contains key => cases h; exact .contains
  | invalidate path => cases h; exact .invalidate
  | invalidateAll => cases h; exact .invalidateAll

theorem Move.after {x : Happening} (h : Move w x next) : w.after x = some next := by
  -- what a lookup answers tells which way the step goes
  have hanswer {counted : Bool} {now : Seconds} {key : CacheKey} {answer : Option (List DiffLine)}
      (h : (w.cache.lookup counted now key).1 = answer) :
      w.cache.lookup counted now key = (answer, (w.cache.lookup counted now key).2) :=
    Prod.ext h rfl
  cases h with
  | contains | invalidate | invalidateAll => rfl
  | tick hclock => rw [Callers.after, if_pos hclock]
  | get hfree | ask hfree => rw [Callers.after, if_pos hfree]
  | timeToPeek hphase | peek hphase | timeToLook hphase | timeToCheck hphase | start hphase
  | timeToStore hphase | publish hphase => rw [Callers.after, step, hphase]
  | store hphase hsize =>
    rw [Callers.after, step, hphase]
    simp only [storing_phase hsize]
  | abandon hphase hsize =>
    simp only [Callers.after, step, hphase, store_unsized hsize]
    rfl
  | register hphase =>
    rw [Callers.after, step, hphase]
    rfl
  | find hphase hlookup | miss hphase hlookup | findAgain hphase hlookup
  | missAgain hphase hlookup =>
    simp only [Callers.after, step, hphase]
    rw [hanswer hlookup]
  | join hphase hholder hfound | take hphase hholder hfound =>
    simp only [Callers.after, step, hphase, takeTable, hholder, hfound]
  | succeed hphase | fail hphase => simp only [Callers.after, finish, hphase]
  | withdrawStored hphase hholder | withdrawFailed hphase hholder =>
    simp only [Callers.after, step, hphase, withdraw, hholder]
  | learn hphase hknown =>
    simp only [Callers.after, step, hphase, hknown]
    rfl

/-- The operation on the cache that a happening does. -/
def operation (w : Callers) : Happening → Operation
  | .step who =>
    match w.phase who with
    | .peeking key now => .lookup true now key
    | .looking key now => .lookup true now key
    | .checking key now => .lookup false now key
    | .alone key => .register key
    | .storing key _ started lines now => .store key lines started now
    | .stored key _ _ => .unregister key
    | .failed key _ _ => .unregister key
    | _ => .nothing
  | .invalidate path => .invalidate path
  | .invalidateAll => .invalidateAll
  | _ => .nothing

theorem Move.cache {x : Happening} (h : Move w x next) :
    next.cache = w.cache.apply (w.operation x) := by
  cases h with
  | tick | contains | invalidate | invalidateAll | get | ask | succeed | fail => rfl
  | timeToPeek hphase | peek hphase | timeToLook hphase | find hphase | miss hphase | join hphase
  | take hphase | timeToCheck hphase | findAgain hphase | missAgain hphase | register hphase
  | start hphase | timeToStore hphase | store hphase | withdrawStored hphase
  | withdrawFailed hphase | publish hphase | learn hphase =>
    rw [operation, hphase]
    rfl
  | abandon hphase hsize =>
    rw [operation, hphase, apply, store_unsized hsize]
    rfl

theorem operation_store {x : Happening} {key : CacheKey} {lines : List DiffLine}
    {started : Generation} {now : Seconds} (h : w.operation x = .store key lines started now) :
    ∃ who flight, x = .step who ∧ w.phase who = .storing key flight started lines now := by
  cases x with
  | step who =>
    rw [operation] at h
    split at h <;> cases h
    exact ⟨who, _, rfl, ‹_›⟩
  | tick | get | ask | result | contains | invalidate | invalidateAll => cases h

theorem operation_stores {x : Happening} {key : CacheKey} {lines : List DiffLine}
    (h : (w.operation x).stores? = some (key, lines)) :
    ∃ who flight started now,
      x = .step who ∧ w.phase who = .storing key flight started lines now := by
  cases hoperation : w.operation x with
  | store =>
    rw [hoperation] at h
    cases h
    obtain ⟨who, flight, hx, hphase⟩ := operation_store hoperation
    exact ⟨who, flight, _, _, hx, hphase⟩
  | nothing | lookup | register | unregister | invalidate | invalidateAll =>
    rw [hoperation] at h
    cases h

end ReviewDiff.Callers
