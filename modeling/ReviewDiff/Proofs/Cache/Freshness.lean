import ReviewDiff.Proofs.Cache.Flight
import ReviewDiff.Proofs.Cache.Seconds

/-!
# Nothing stale is served

An entry is what one computation for its key gave, and nothing dropped its path since the
computation started. Its time of creation is the one that the leader read before it stored,
whatever looked the entry up since, so what a lookup serves is younger than the lifetime.

A computation remembers the generation in which it started. Either this is the present one and
nothing dropped the path, or the present one comes after it, in an order in which no generation
comes back.
-/

set_option autoImplicit false

namespace ReviewDiff

def Happening.drops (path : Points) : Happening → Bool
  | .invalidate dropped => dropped = path
  | .invalidateAll => true
  | _ => false

namespace Phase

def lookup? : Phase → Option (CacheKey × Seconds)
  | .peeking key now => some (key, now)
  | .looking key now => some (key, now)
  | .checking key now => some (key, now)
  | _ => none

def given? : Phase → Option (List DiffLine)
  | .got lines => lines
  | .answered (.ok lines) => some lines
  | _ => none

end Phase

namespace Callers

open DiffCache Phase

variable {first w next : Callers} {hs : List Happening} {x : Happening} {who c : Caller}
  {phase : Phase} {key : CacheKey} {flight : Flight} {lines : List DiffLine} {i : Nat}
  {started : Generation} {now : Seconds} {path : Points}

/-- At a moment of a run a caller takes a step in a phase, and the clock shows a time. -/
def StepsAt (first : Callers) (hs : List Happening) (i : Nat) (who : Caller) (phase : Phase)
    (time : Seconds) : Prop :=
  ∃ w, Occurs first hs i (.step who) w ∧ w.phase who = phase ∧ w.now = time

def StartsAt (first : Callers) (hs : List Happening) (i : Nat) (leader : Caller) (key : CacheKey)
    (flight : Flight) : Prop :=
  ∃ time, StepsAt first hs i leader (.registered key flight) time

/-- At a moment of a run a leader puts the output of its computation into the table, as made at a
time. -/
def StoresAt (first : Callers) (hs : List Happening) (i : Nat) (leader : Caller) (key : CacheKey)
    (flight : Flight) (lines : List DiffLine) (created : Seconds) : Prop :=
  ∃ w started evicted, Occurs first hs i (.step leader) w ∧
    w.phase leader = .storing key flight started lines created ∧
    (w.cache.store key lines started created).1 = .stored evicted

def Undisturbed (hs : List Happening) (i : Nat) (path : Points) : Prop :=
  ∀ m x, i < m → hs[m]? = some x → x.drops path = false

/-- A computation for a key gave an output, after it the leader read the clock and stored, and
nothing dropped the path of the key since the computation started. -/
def Made (first : Callers) (hs : List Happening) (key : CacheKey) (lines : List DiffLine)
    (created : Seconds) : Prop :=
  ∃ leader flight started, ∃ i j k l, i < j ∧ j < k ∧ k < l ∧
    StartsAt first hs i leader key flight ∧
    EndsAt first hs j leader key flight (.ok lines) ∧
    StepsAt first hs k leader (.computed key flight started lines) created ∧
    StoresAt first hs l leader key flight lines created ∧
    Undisturbed hs i key.path.value

theorem StepsAt.concat {time : Seconds} (h : StepsAt first hs i who phase time) :
    StepsAt first (hs ++ [x]) i who phase time := by
  obtain ⟨v, hoccurs, hphase, hnow⟩ := h
  exact ⟨v, hoccurs.concat, hphase, hnow⟩

theorem stepsAt_last (hrun : first.run hs = some w) :
    StepsAt first (hs ++ [.step who]) hs.length who (w.phase who) w.now :=
  ⟨w, occurs_last hrun, rfl, rfl⟩

theorem StartsAt.concat (h : StartsAt first hs i who key flight) :
    StartsAt first (hs ++ [x]) i who key flight := by
  obtain ⟨time, hsteps⟩ := h
  exact ⟨time, hsteps.concat⟩

theorem StoresAt.concat (h : StoresAt first hs i who key flight lines now) :
    StoresAt first (hs ++ [x]) i who key flight lines now := by
  obtain ⟨v, started, evicted, hoccurs, hphase, hstored⟩ := h
  exact ⟨v, started, evicted, hoccurs.concat, hphase, hstored⟩

theorem StepsAt.lt {time : Seconds} (h : StepsAt first hs i who phase time) : i < hs.length := by
  obtain ⟨v, hoccurs, -⟩ := h
  exact hoccurs.lt

theorem StartsAt.lt (h : StartsAt first hs i who key flight) : i < hs.length := by
  obtain ⟨time, hsteps⟩ := h
  exact hsteps.lt

theorem EndsAt.lt {outcome : Except Fault (List DiffLine)}
    (h : EndsAt first hs i who key flight outcome) : i < hs.length := by
  obtain ⟨v, started, hoccurs, -⟩ := h
  exact hoccurs.lt

theorem undisturbed_last (hs : List Happening) (x : Happening) (path : Points) :
    Undisturbed (hs ++ [x]) hs.length path := by
  intro m y hm hy
  rw [List.getElem?_eq_none (by simp; omega)] at hy
  cases hy

theorem Undisturbed.concat (h : Undisturbed hs i path) (hx : x.drops path = false) :
    Undisturbed (hs ++ [x]) i path := by
  intro m y hm hy
  obtain hlt | hge := Nat.lt_or_ge m hs.length
  · rw [List.getElem?_append_left hlt] at hy
    exact h m y hm hy
  · rw [List.getElem?_append_right hge, List.getElem?_singleton] at hy
    split at hy <;> cases hy
    exact hx

theorem operation_drops (w : Callers) (x : Happening) (path : Points) :
    (w.operation x).drops path = x.drops path := by
  cases x with
  | step who =>
    rw [operation]
    split <;> rfl
  | tick | get | ask | result | contains | invalidate | invalidateAll => rfl

def Since (hs : List Happening) (cache : DiffCache) (key : CacheKey) (i : Nat)
    (started : Generation) : Prop :=
  started = cache.generationOf key ∧ Undisturbed hs i key.path.value ∨
    started.Before (cache.generationOf key)

theorem Since.move (h : Since hs w.cache key i started) (hmove : Move w x next) :
    Since (hs ++ [x]) next.cache key i started := by
  have hgeneration := apply_generation w.cache (w.operation x) key
  rw [operation_drops, ← hmove.cache] at hgeneration
  cases hdrops : x.drops key.path.value with
  | true =>
    rw [hdrops, if_pos rfl] at hgeneration
    obtain ⟨rfl, -⟩ | hpast := h
    · exact .inr hgeneration
    · exact .inr (hpast.trans hgeneration)
  | false =>
    rw [hdrops, if_neg Bool.false_ne_true] at hgeneration
    obtain ⟨rfl, hundisturbed⟩ | hpast := h
    · exact .inl ⟨hgeneration.symm, hundisturbed.concat hdrops⟩
    · exact .inr (hgeneration ▸ hpast)

theorem Since.undisturbed (h : Since hs w.cache key i started)
    (hstarted : started = w.cache.generationOf key) : Undisturbed hs i key.path.value := by
  obtain ⟨-, hundisturbed⟩ | hpast := h
  · exact hundisturbed
  · exact absurd hstarted hpast.ne

def Told (first : Callers) (hs : List Happening) (cache : DiffCache) (who : Caller) : Phase → Prop
  | .peeking key now => ∃ i, StepsAt first hs i who (.getting key) now
  | .looking key now => ∃ i, StepsAt first hs i who (.asking key) now
  | .checking key now => ∃ i, StepsAt first hs i who (.holding key) now
  | .computing key flight started =>
    ∃ i, StartsAt first hs i who key flight ∧ Since hs cache key i started
  | .computed key flight started lines => ∃ i j, i < j ∧ StartsAt first hs i who key flight ∧
    EndsAt first hs j who key flight (.ok lines) ∧ Since hs cache key i started
  | .storing key flight started lines now => ∃ i j k, i < j ∧ j < k ∧
    StartsAt first hs i who key flight ∧ EndsAt first hs j who key flight (.ok lines) ∧
    StepsAt first hs k who (.computed key flight started lines) now ∧ Since hs cache key i started
  | _ => True

theorem Told.move (h : Told first hs w.cache c phase) (hmove : Move w x next) :
    Told first (hs ++ [x]) next.cache c phase := by
  cases phase with
  | peeking | looking | checking =>
    obtain ⟨i, hread⟩ := h
    exact ⟨i, hread.concat⟩
  | computing key flight started =>
    obtain ⟨i, hstarts, hsince⟩ := h
    exact ⟨i, hstarts.concat, hsince.move hmove⟩
  | computed key flight started lines =>
    obtain ⟨i, j, hij, hstarts, hends, hsince⟩ := h
    exact ⟨i, j, hij, hstarts.concat, hends.concat, hsince.move hmove⟩
  | storing key flight started lines now =>
    obtain ⟨i, j, k, hij, hjk, hstarts, hends, hread, hsince⟩ := h
    exact ⟨i, j, k, hij, hjk, hstarts.concat, hends.concat, hread.concat, hsince.move hmove⟩
  | idle | getting | got | asking | missed | holding | alone | registered | stored | failed
  | withdrawn | waiting | answered => trivial

theorem told_turn {cache : DiffCache} (hothers : ∀ c, Told first hs cache c (w.phase c))
    (hself : Told first hs cache who phase) (c : Caller) :
    Told first hs cache c ((w.turn who phase).phase c) :=
  turn_forall hself (fun c _ => hothers c) c

theorem told_move (hrun : first.run hs = some w) (h : ∀ c, Told first hs w.cache c (w.phase c))
    (hmove : Move w x next) : ∀ c, Told first (hs ++ [x]) next.cache c (next.phase c) := by
  have hkept (c : Caller) : Told first (hs ++ [x]) next.cache c (w.phase c) := (h c).move hmove
  have hstays {key : CacheKey} {i : Nat} {started : Generation}
      (hsince : Since hs w.cache key i started) : Since (hs ++ [x]) next.cache key i started :=
    hsince.move hmove
  cases hmove with
  | tick | contains | invalidate | invalidateAll => exact hkept
  | get | ask | peek | find | miss | join | take | findAgain | missAgain | register | fail | store
  | abandon | withdrawStored | withdrawFailed | publish | learn => exact told_turn hkept trivial
  | timeToPeek hphase | timeToLook hphase | timeToCheck hphase =>
    exact told_turn hkept ⟨hs.length, hphase ▸ stepsAt_last hrun⟩
  | @start who key flight hphase =>
    have hstarts : StartsAt first (hs ++ [.step who]) hs.length who key flight :=
      ⟨w.now, hphase ▸ stepsAt_last hrun⟩
    exact told_turn hkept ⟨hs.length, hstarts, .inl ⟨rfl, undisturbed_last hs _ _⟩⟩
  | @succeed who key flight started lines hphase =>
    have hself := h who
    rw [hphase] at hself
    obtain ⟨i, hstarts, hsince⟩ := hself
    exact told_turn hkept ⟨i, hs.length, hstarts.lt, hstarts.concat,
      ⟨w, started, occurs_last hrun, hphase⟩, hstays hsince⟩
  | @timeToStore who key flight started lines hphase =>
    have hself := h who
    rw [hphase] at hself
    obtain ⟨i, j, hij, hstarts, hends, hsince⟩ := hself
    exact told_turn hkept ⟨i, j, hs.length, hij, hends.lt, hstarts.concat, hends.concat,
      hphase ▸ stepsAt_last hrun, hstays hsince⟩

theorem Made.concat (h : Made first hs key lines now) (hx : x.drops key.path.value = false) :
    Made first (hs ++ [x]) key lines now := by
  obtain ⟨leader, flight, started, i, j, k, l, hij, hjk, hkl, hstarts, hends, hread, hstores,
    hundisturbed⟩ := h
  exact ⟨leader, flight, started, i, j, k, l, hij, hjk, hkl, hstarts.concat, hends.concat,
    hread.concat, hstores.concat, hundisturbed.concat hx⟩

theorem made_stored (hrun : first.run hs = some w)
    (htold : ∀ c, Told first hs w.cache c (w.phase c))
    (hphase : w.phase who = .storing key flight started lines now)
    (hstarted : started = w.cache.generationOf key)
    (hstored : ∃ evicted, (w.cache.store key lines started now).1 = .stored evicted) :
    Made first (hs ++ [.step who]) key lines now := by
  have hself := htold who
  rw [hphase] at hself
  obtain ⟨i, j, k, hij, hjk, hstarts, hends, hread, hsince⟩ := hself
  obtain ⟨evicted, hstored⟩ := hstored
  exact ⟨who, flight, started, i, j, k, hs.length, hij, hjk, hread.lt, hstarts.concat, hends.concat,
    hread.concat, ⟨w, started, evicted, occurs_last hrun, hphase, hstored⟩,
    (hsince.undisturbed hstarted).concat rfl⟩

theorem made_move (hrun : first.run hs = some w) (htold : ∀ c, Told first hs w.cache c (w.phase c))
    (h : ∀ e ∈ w.cache.entries, Made first hs e.key e.lines e.createdAt) (hmove : Move w x next) :
    ∀ e ∈ next.cache.entries, Made first (hs ++ [x]) e.key e.lines e.createdAt := by
  intro e he
  rw [hmove.cache] at he
  obtain ⟨before, hmem, time, rfl⟩ | ⟨key, lines, started, now, size, hstore, -, hstarted, hstored,
    rfl⟩ := apply_entries he
  · refine (h before hmem).concat (Bool.eq_false_iff.mpr fun hdrops => ?_)
    rw [← operation_drops w] at hdrops
    exact apply_dropped hdrops he rfl
  · obtain ⟨who, flight, rfl, hphase⟩ := operation_store hstore
    exact made_stored hrun htold hphase hstarted hstored

theorem run_made {limits : Limits} {time : Seconds}
    (hrun : (startAt limits time).run hs = some w) :
    (∀ c, Told (startAt limits time) hs w.cache c (w.phase c)) ∧
      ∀ e ∈ w.cache.entries, Made (startAt limits time) hs e.key e.lines e.createdAt := by
  refine run_induction (P := fun hs w =>
    (∀ c, Told (startAt limits time) hs w.cache c (w.phase c)) ∧
    ∀ e ∈ w.cache.entries, Made (startAt limits time) hs e.key e.lines e.createdAt) ?_ ?_ hrun
  · exact ⟨fun _ => trivial, fun _ he => by cases he⟩
  · exact fun hs w x next hrun ih hmove =>
      ⟨told_move hrun ih.1 hmove, made_move hrun ih.1 ih.2 hmove⟩

theorem run_limits {limits : Limits} {time : Seconds}
    (hrun : (startAt limits time).run hs = some w) : w.cache.limits = limits :=
  run_induction (P := fun _ w => w.cache.limits = limits) rfl
    (fun _ w x _ _ h hmove => by rw [hmove.cache, apply_limits, h]) hrun

theorem Told.read (h : Told first hs w.cache who (w.phase who))
    (hlookup : (w.phase who).lookup? = some (key, now)) :
    ∃ i before, (before = .getting key ∨ before = .asking key ∨ before = .holding key) ∧
      StepsAt first hs i who before now := by
  cases hphase : w.phase who <;> rw [hphase] at h hlookup <;> cases hlookup <;>
    obtain ⟨i, hread⟩ := h
  · exact ⟨i, _, .inl rfl, hread⟩
  · exact ⟨i, _, .inr (.inl rfl), hread⟩
  · exact ⟨i, _, .inr (.inr rfl), hread⟩

theorem Move.given (h : Move w (.step who) next) (hlookup : (w.phase who).lookup? = some (key, now))
    (hgiven : (next.phase who).given? = some lines) :
    ∃ counted, (w.cache.lookup counted now key).1 = some lines := by
  cases h with
  | peek hphase =>
    rw [hphase] at hlookup
    cases hlookup
    rw [turnWith, turn_phase_self] at hgiven
    exact ⟨true, hgiven⟩
  | find hphase hfound =>
    rw [hphase] at hlookup
    cases hlookup
    rw [turnWith, turn_phase_self] at hgiven
    exact ⟨true, hfound.trans hgiven⟩
  | findAgain hphase hfound =>
    rw [hphase] at hlookup
    cases hlookup
    rw [turnWith, turn_phase_self] at hgiven
    exact ⟨false, hfound.trans hgiven⟩
  | miss | missAgain =>
    rw [turnWith, turn_phase_self] at hgiven
    cases hgiven
  | abandon hphase =>
    rw [hphase] at hlookup
    cases hlookup
  | timeToPeek hphase | timeToLook hphase | join hphase | take hphase | timeToCheck hphase
  | register hphase | start hphase | timeToStore hphase | store hphase | withdrawStored hphase
  | withdrawFailed hphase | publish hphase | learn hphase =>
    rw [hphase] at hlookup
    cases hlookup

theorem StepsAt.time {limits : Limits} {time : Seconds}
    (h : StepsAt (startAt limits time) hs i who phase now) :
    now = time ∨ .tick now ∈ hs := by
  obtain ⟨v, ⟨-, hrun⟩, -, rfl⟩ := h
  have hclock : v.now = time ∨ .tick v.now ∈ hs.take i := by
    refine run_induction (P := fun hs w => w.now = time ∨ .tick w.now ∈ hs) (.inl rfl) ?_ hrun
    intro hs w x next _ ih hmove
    have hnow : next.now = w.now ∨ x = .tick next.now := by
      cases hmove <;> first | exact .inl rfl | exact .inr rfl
    obtain hsame | rfl := hnow
    · rw [hsame]
      exact ih.imp_right (List.mem_append_left _)
    · exact .inr (List.mem_append_right _ (List.mem_singleton_self _))
  exact hclock.imp_right List.mem_of_mem_take

/-- What a lookup serves at a time that a caller read: the output of a computation for the very
key, within its lifetime, whose path nothing dropped since the computation started. The lifetime is
not reached; with a clock that shows finite times the age lies below the lifetime if this is a
number. -/
theorem served_fresh {limits : Limits} {time : Seconds}
    (hrun : (startAt limits time).run hs = some w)
    (hlookup : (w.phase who).lookup? = some (key, now))
    (hstep : w.after (.step who) = some next) (hgiven : (next.phase who).given? = some lines) :
    (∃ i before, (before = .getting key ∨ before = .asking key ∨ before = .holding key) ∧
      StepsAt (startAt limits time) hs i who before now) ∧
    ∃ created, Made (startAt limits time) hs key lines created ∧
      limits.lifetime.le (now.sub created) = false ∧
      (limits.lifetime.isNumber = true → time.isFinite = true →
        (∀ later, .tick later ∈ hs → later.isFinite = true) →
        (now.sub created).lt limits.lifetime = true) := by
  obtain ⟨htold, hmade⟩ := run_made hrun
  obtain ⟨counted, hanswer⟩ := (after_move hstep).given hlookup hgiven
  obtain ⟨e, hmem, rfl, rfl, hserved⟩ := lookup_hit hanswer
  rw [isExpired, run_limits hrun] at hserved
  have hread := (htold who).read hlookup
  refine ⟨hread, e.createdAt, hmade e hmem, hserved, fun hlifetime hfirst hticks => ?_⟩
  have hfinite {t : Seconds} (ht : t = time ∨ .tick t ∈ hs) : t.isFinite = true :=
    ht.elim (fun h => h ▸ hfirst) (hticks t)
  obtain ⟨i, before, -, hnow⟩ := hread
  obtain ⟨leader, flight, started, _, _, _, _, -, -, -, -, -, hcreated, -⟩ := hmade e hmem
  exact Seconds.lt_of_not_le (Seconds.sub_isNumber (hfinite hnow.time) (hfinite hcreated.time))
    hlifetime hserved

theorem served_fresh_later :
    let key : CacheKey := ⟨"repository", ⟨"file", by decide⟩, "old", "new", .complete, none⟩
    let lines : List DiffLine := [.added "line" 1]
    let hs : List Happening := [.ask 0 key, .step 0, .step 0, .step 0, .step 0, .step 0, .step 0,
      .step 0, .invalidate "other", .result 0 (.ok lines), .tick (.whole 7), .step 0, .step 0,
      .step 0, .step 0, .tick (.whole 30), .get 1 key, .step 1]
    let first := startAt ⟨100, .whole 60, by decide, by decide⟩ (.whole 5)
    ∃ w next, first.run hs = some w ∧ (w.phase 1).lookup? = some (key, .whole 30) ∧
      w.after (.step 1) = some next ∧ (next.phase 1).given? = some lines ∧
      ∃ created, Made first hs key lines created ∧
        Seconds.lt ((Seconds.whole 30).sub created) (.whole 60) = true := by
  intro key lines hs first
  have hserved {w next : Callers} (hrun : first.run hs = some w)
      (hlookup : (w.phase 1).lookup? = some (key, .whole 30))
      (hstep : w.after (.step 1) = some next) (hgiven : (next.phase 1).given? = some lines) :=
    served_fresh hrun hlookup hstep hgiven
  obtain ⟨-, created, hmade, -, hyounger⟩ := hserved rfl rfl rfl rfl
  refine ⟨_, _, rfl, rfl, rfl, rfl, created, hmade, hyounger rfl rfl fun later hlater => ?_⟩
  have htimes : later = .whole 7 ∨ later = .whole 30 := by simpa [hs] using hlater
  obtain rfl | rfl := htimes <;> rfl

end Callers

end ReviewDiff
