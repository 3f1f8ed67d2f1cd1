import ReviewDiff.Proofs.Cache.Freshness
import ReviewDiff.Proofs.Cache.SingleFlight
import ReviewDiff.Proofs.Outcome

/-!
# What a call gets

A call for a key gets what is kept, what it computes itself, or what the computation that it joins
comes to. What is kept was not made before the last invalidation of its path, and what a call
computes itself is made after the call began. A computation that a call joins may have started
before an invalidation that the call comes after: an invalidation does not take the key out of the
table of computations, so whoever waits gets its share. Such a computation stores nothing after the
invalidation, so the share is all that is left of it.
-/

set_option autoImplicit false

namespace ReviewDiff.Callers

open DiffCache Phase

variable {first w next : Callers} {hs : List Happening} {x : Happening} {who c leader : Caller}
  {phase : Phase} {key : CacheKey} {flight : Flight} {lines : List DiffLine} {i : Nat}
  {outcome : Except Fault (List DiffLine)}

theorem startsAt_concat {s : Nat} (hrun : first.run hs = some w)
    (h : StartsAt first (hs ++ [x]) s c key flight) :
    StartsAt first hs s c key flight ∨
      s = hs.length ∧ x = .step c ∧ w.phase c = .registered key flight := by
  obtain ⟨time, v, hoccurs, hphase, hnow⟩ := h
  obtain hold | ⟨hs, hx, hlast⟩ := occurs_concat hoccurs
  · exact .inl ⟨time, v, hold, hphase, hnow⟩
  · obtain rfl := Option.some.inj (hlast.symm.trans hrun)
    exact .inr ⟨hs, hx.symm, hphase⟩

structure Started (first : Callers) (hs : List Happening) (w : Callers) : Prop where
  below : ∀ s c key flight, StartsAt first hs s c key flight → flight < w.cache.nextFlight
  past : ∀ s c key flight, StartsAt first hs s c key flight →
    ∀ d k, w.phase d ≠ .registered k flight
  once : ∀ s t c d key key' flight, StartsAt first hs s c key flight →
    StartsAt first hs t d key' flight → s = t

theorem Move.registered (h : Move w x next) (hphase : next.phase c = .registered key flight) :
    w.phase c = .registered key flight ∧ x ≠ .step c ∨ flight = w.cache.nextFlight := by
  have hold {who : Caller} {phase : Phase} (hne : phase ≠ .registered key flight)
      (h : (w.turn who phase).phase c = .registered key flight) :
      w.phase c = .registered key flight ∧ Happening.step who ≠ .step c := by
    have hc : c ≠ who := by
      rintro rfl
      exact hne (turn_phase_self w c phase ▸ h)
    exact ⟨turn_phase_ne w phase hc ▸ h, fun hx => hc (Happening.step.inj hx).symm⟩
  cases h with
  | tick | contains | invalidate | invalidateAll => exact .inl ⟨hphase, Happening.noConfusion⟩
  | get | ask | succeed | fail =>
    exact .inl ⟨(hold Phase.noConfusion hphase).1, Happening.noConfusion⟩
  | @register who k halone =>
    by_cases hflight : flight = w.cache.nextFlight
    · exact .inr hflight
    · refine .inl (hold (fun h => hflight ?_) hphase)
      cases h
      rfl
  | timeToPeek | peek | timeToLook | find | miss | join | take | timeToCheck | findAgain
  | missAgain | start | timeToStore | store | abandon | withdrawStored | withdrawFailed | publish
  | learn =>
    exact .inl (hold Phase.noConfusion hphase)

theorem Move.nextFlight (h : Move w x next) : w.cache.nextFlight ≤ next.cache.nextFlight := by
  obtain ⟨-, hnext, -⟩ | ⟨who, key, -, -, rfl⟩ | ⟨who, key, flight, outcome, -, -, rfl⟩ |
    ⟨who, key, flight, started, lines, now, e, -, -, -, rfl⟩ := h.owners
  · exact Nat.le_of_eq hnext.symm
  · exact Nat.le_succ _
  · exact Nat.le_refl _
  · exact Nat.le_refl _

theorem run_started {limits : Limits} {time : Seconds}
    (hrun : (startAt limits time).run hs = some w) : Started (startAt limits time) hs w := by
  refine run_induction (P := Started (startAt limits time)) ⟨?_, ?_, ?_⟩ ?_ hrun
  · exact fun s _ _ _ h => absurd h.lt (Nat.not_lt_zero s)
  · exact fun s _ _ _ h => absurd h.lt (Nat.not_lt_zero s)
  · exact fun s _ _ _ _ _ _ h => absurd h.lt (Nat.not_lt_zero s)
  · intro hs w x next hrun ih hmove
    have hnumbered := run_numbered hrun
    have hbelow {s : Nat} {c : Caller} {key : CacheKey} {flight : Flight}
        (h : StartsAt (startAt limits time) (hs ++ [x]) s c key flight) :
        flight < w.cache.nextFlight := by
      obtain hold | ⟨-, -, hphase⟩ := startsAt_concat hrun h
      · exact ih.below s c key flight hold
      · exact hnumbered.below c key flight (by rw [hphase]; rfl)
    constructor
    · intro s c key flight h
      exact Nat.lt_of_lt_of_le (hbelow h) hmove.nextFlight
    · intro s c key flight h d k hphase
      obtain ⟨hbefore, hx⟩ | rfl := hmove.registered hphase
      · obtain hold | ⟨-, rfl, hregistered⟩ := startsAt_concat hrun h
        · exact ih.past s c key flight hold d k hbefore
        · obtain rfl := hnumbered.single d c k key flight (by rw [hbefore]; rfl)
            (by rw [hregistered]; rfl)
          exact hx rfl
      · exact Nat.lt_irrefl _ (hbelow h)
    · intro s t c d key key' flight hc hd
      obtain hoc | ⟨hs, -, hphase⟩ := startsAt_concat hrun hc
      · obtain hod | ⟨-, -, hphase'⟩ := startsAt_concat hrun hd
        · exact ih.once s t c d key key' flight hoc hod
        · exact absurd hphase' (ih.past s c key flight hoc d key')
      · obtain hod | ⟨ht, -, -⟩ := startsAt_concat hrun hd
        · exact absurd hphase (ih.past t d key' flight hod c key)
        · exact hs.trans ht.symm

theorem ended_started {limits : Limits} {time : Seconds}
    (hrun : (startAt limits time).run hs = some w) :
    ∀ e c key flight outcome, EndsAt (startAt limits time) hs e c key flight outcome →
      ∃ s, StartsAt (startAt limits time) hs s c key flight := by
  refine run_induction (P := fun hs _ => ∀ e c key flight outcome,
    EndsAt (startAt limits time) hs e c key flight outcome →
      ∃ s, StartsAt (startAt limits time) hs s c key flight) ?_ ?_ hrun
  · exact fun e _ _ _ _ h => absurd h.lt (Nat.not_lt_zero e)
  · intro hs w x next hrun ih _ e c key flight outcome h
    obtain hold | ⟨rfl, -, started, hphase⟩ := endsAt_concat hrun h
    · obtain ⟨s, hstarts⟩ := ih e c key flight outcome hold
      exact ⟨s, hstarts.concat⟩
    · have htold := (run_made hrun).1 c
      rw [hphase] at htold
      obtain ⟨s, hstarts, -⟩ := htold
      exact ⟨s, hstarts.concat⟩

theorem Undisturbed.before {path : Points} {m s : Nat} (h : Undisturbed hs s path)
    (hstarts : StartsAt first hs s c key flight) (hx : hs[m]? = some x)
    (hdrops : x.drops path = true) : m < s := by
  obtain ⟨_, v, ⟨hstep, -⟩, -⟩ := hstarts
  obtain hlt | rfl | hgt := Nat.lt_trichotomy m s
  · exact hlt
  · -- the start of a computation drops nothing
    rw [hstep] at hx
    cases hx
    cases hdrops
  · rw [h m x hgt hx] at hdrops
    cases hdrops

theorem StoresAt.lt {l : Nat} {created : Seconds}
    (h : StoresAt first hs l c key flight lines created) : l < hs.length := by
  obtain ⟨_, _, _, hoccurs, -⟩ := h
  exact hoccurs.lt

theorem stored_undisturbed {limits : Limits} {time : Seconds}
    (hrun : (startAt limits time).run hs = some w) :
    ∀ l c key flight lines created, StoresAt (startAt limits time) hs l c key flight lines created →
      ∃ s, StartsAt (startAt limits time) hs s c key flight ∧
        ∀ m y, hs[m]? = some y → y.drops key.path.value = true → m < s ∨ l < m := by
  refine run_induction (P := fun hs _ => ∀ l c key flight lines created,
    StoresAt (startAt limits time) hs l c key flight lines created →
      ∃ s, StartsAt (startAt limits time) hs s c key flight ∧
        ∀ m y, hs[m]? = some y → y.drops key.path.value = true → m < s ∨ l < m) ?_ ?_ hrun
  · exact fun l _ _ _ _ _ h => absurd h.lt (Nat.not_lt_zero l)
  · intro hs w x next hrun ih _ l c key flight lines created h
    obtain ⟨v, started, evicted, hoccurs, hphase, hstored⟩ := h
    obtain hold | ⟨rfl, rfl, hlast⟩ := occurs_concat hoccurs
    · obtain ⟨s, hstarts, hleft⟩ :=
        ih l c key flight lines created ⟨v, started, evicted, hold, hphase, hstored⟩
      refine ⟨s, hstarts.concat, fun m y hy hdrops => ?_⟩
      by_cases hm : m < hs.length
      · rw [List.getElem?_append_left hm] at hy
        exact hleft m y hy hdrops
      · exact .inr (Nat.lt_of_lt_of_le hold.lt (Nat.not_lt.mp hm))
    · obtain rfl := Option.some.inj (hlast.symm.trans hrun)
      have htold := (run_made hrun).1 c
      rw [hphase] at htold
      obtain ⟨s, _, _, -, -, hstarts, -, -, hsince⟩ := htold
      have hstarted : started = v.cache.generationOf key := by
        obtain ⟨-, hrefused⟩ | ⟨-, -, hstarted, -⟩ := store_cases v.cache key lines started created
        · exact absurd hstored (hrefused evicted)
        · exact hstarted
      have hundisturbed : Undisturbed (hs ++ [.step c]) s key.path.value :=
        (hsince.undisturbed hstarted).concat rfl
      exact ⟨s, hstarts.concat, fun m y hy hdrops =>
        .inl (hundisturbed.before hstarts.concat hy hdrops)⟩

/-- At a moment a caller's call for what is kept or computed begins, and it is its last call. -/
def Began (hs : List Happening) (i : Nat) (who : Caller) (key : CacheKey) : Prop :=
  hs[i]? = some (.ask who key) ∧ ∀ x ∈ hs.drop (i + 1), ∀ k, x ≠ .ask who k ∧ x ≠ .get who k

def FindsAt (first : Callers) (hs : List Happening) (i : Nat) (who : Caller) (key : CacheKey)
    (lines : List DiffLine) : Prop :=
  ∃ w counted now, Occurs first hs i (.step who) w ∧ (w.phase who).lookup? = some (key, now) ∧
    (w.cache.lookup counted now key).1 = some lines

/-- After a moment a caller finds an output that a leader stored. -/
def Kept (first : Callers) (hs : List Happening) (i : Nat) (who leader : Caller) (key : CacheKey)
    (flight : Flight) (lines : List DiffLine) : Prop :=
  ∃ l j created, l < j ∧ i < j ∧ StoresAt first hs l leader key flight lines created ∧
    FindsAt first hs j who key lines

def Source (first : Callers) (hs : List Happening) (i : Nat) (who : Caller) (key : CacheKey)
    (lines : List DiffLine) : Prop :=
  ∃ leader flight s e, StartsAt first hs s leader key flight ∧
    EndsAt first hs e leader key flight (.ok lines) ∧
    ((leader = who ∧ i < s ∨ Kept first hs i who leader key flight lines) ∧
        (∀ m x, m < i → hs[m]? = some x → x.drops key.path.value = true → m < s) ∨
      ∃ j, i < j ∧ JoinsAt first hs j who leader key flight)

def Follows (first : Callers) (hs : List Happening) (w : Callers) (i : Nat) (who : Caller)
    (key : CacheKey) : Phase → Prop
  | .asking k | .looking k _ | .missed k | .holding k | .checking k _ | .alone k
  | .registered k _ => k = key
  | .computing k flight _ | .computed k flight _ _ | .storing k flight _ _ _ | .stored k flight _
  | .failed k flight _ | .withdrawn k flight _ =>
    k = key ∧ ∃ s, i < s ∧ StartsAt first hs s who key flight
  | .waiting flight => (∃ j leader, i < j ∧ JoinsAt first hs j who leader key flight ∧
    Pending first hs w leader key flight) ∨ LeftBehind first hs key flight
  | .answered outcome => ∀ lines, outcome = .ok lines → Source first hs i who key lines
  | .idle | .getting _ | .peeking _ _ | .got _ => False

theorem Began.lt (h : Began hs i who key) : i < hs.length := (List.getElem?_eq_some_iff.mp h.1).1

theorem began_concat (h : Began (hs ++ [x]) i who key) :
    Began hs i who key ∧ (∀ k, x ≠ .ask who k ∧ x ≠ .get who k) ∨
      i = hs.length ∧ x = .ask who key := by
  obtain ⟨hask, hlast⟩ := h
  obtain hlt | heq | hgt := Nat.lt_trichotomy i hs.length
  · rw [List.getElem?_append_left hlt] at hask
    rw [List.drop_append_of_le_length hlt] at hlast
    exact .inl ⟨⟨hask, fun y hy => hlast y (List.mem_append_left _ hy)⟩,
      hlast x (List.mem_append_right _ (List.mem_singleton_self x))⟩
  · rw [heq, List.getElem?_concat_length] at hask
    exact .inr ⟨heq, Option.some.inj hask⟩
  · rw [List.getElem?_eq_none (by simp; omega)] at hask
    cases hask

theorem Kept.concat (h : Kept first hs i who leader key flight lines) :
    Kept first (hs ++ [x]) i who leader key flight lines := by
  obtain ⟨l, j, created, hlj, hij, hstores, v, counted, now, hoccurs, hlookup, hanswer⟩ := h
  exact ⟨l, j, created, hlj, hij, hstores.concat, v, counted, now, hoccurs.concat, hlookup, hanswer⟩

theorem Source.concat (h : Source first hs i who key lines) (hi : i < hs.length) :
    Source first (hs ++ [x]) i who key lines := by
  obtain ⟨leader, flight, s, e, hstarts, hends, hsource⟩ := h
  refine ⟨leader, flight, s, e, hstarts.concat, hends.concat, ?_⟩
  obtain ⟨hpath, hfresh⟩ | ⟨j, hij, hjoins⟩ := hsource
  · refine .inl ⟨hpath.imp_right Kept.concat, fun m y hm hy => hfresh m y hm ?_⟩
    rwa [List.getElem?_append_left (Nat.lt_trans hm hi)] at hy
  · exact .inr ⟨j, hij, hjoins.concat⟩

theorem Follows.move (hrun : first.run hs = some w) (hnumbered : w.Numbered)
    (hreported : Reported first hs w) (hmove : Move w x next) (hi : i < hs.length)
    (h : Follows first hs w i c key phase) :
    Follows first (hs ++ [x]) next i c key phase := by
  cases phase with
  | idle | getting | peeking | got => exact h
  | asking | looking | missed | holding | checking | alone | registered => exact h
  | computing | computed | storing | stored | failed | withdrawn =>
    obtain ⟨hkey, s, his, hstarts⟩ := h
    exact ⟨hkey, s, his, hstarts.concat⟩
  | waiting flight =>
    obtain ⟨j, leader, hij, hjoins, hpending⟩ | hbehind := h
    · exact (hpending.move hrun hnumbered hreported hmove).imp_left
        fun hstill => ⟨j, leader, hij, hjoins.concat, hstill⟩
    · exact .inr hbehind.concat
  | answered outcome =>
    intro lines houtcome
    exact (h lines houtcome).concat hi

theorem source_kept {limits : Limits} {time now : Seconds} {counted : Bool}
    (hrun : (startAt limits time).run hs = some w) (hi : i < hs.length)
    (hlookup : (w.phase c).lookup? = some (key, now))
    (hanswer : (w.cache.lookup counted now key).1 = some lines) :
    Source (startAt limits time) (hs ++ [.step c]) i c key lines := by
  have hfinds : FindsAt (startAt limits time) (hs ++ [.step c]) hs.length c key lines :=
    ⟨w, counted, now, occurs_last hrun, hlookup, hanswer⟩
  obtain ⟨entry, hmem, rfl, rfl, -⟩ := lookup_hit hanswer
  obtain ⟨leader, flight, _, s, e, _, l, -, -, -, hstarts, hends, -, hstores, hundisturbed⟩ :=
    (run_made hrun).2 entry hmem
  have hleft : Undisturbed (hs ++ [.step c]) s entry.key.path.value := hundisturbed.concat rfl
  exact ⟨leader, flight, s, e, hstarts.concat, hends.concat,
    .inl ⟨.inr ⟨l, hs.length, entry.createdAt, hstores.lt, hi, hstores.concat, hfinds⟩,
      fun m x _ hx hdrops => hleft.before hstarts.concat hx hdrops⟩⟩

theorem source_own {limits : Limits} {time : Seconds} {s : Nat}
    (hrun : (startAt limits time).run hs = some w) (his : i < s)
    (hstarts : StartsAt (startAt limits time) hs s c key flight)
    (hphase : w.phase c = .withdrawn key flight (.ok lines)) :
    Source (startAt limits time) hs i c key lines := by
  obtain ⟨e, hends⟩ := (run_reported hrun).ended c key flight (.ok lines) (by rw [hphase]; rfl)
  exact ⟨c, flight, s, e, hstarts, hends,
    .inl ⟨.inl ⟨rfl, his⟩, fun m _ hm _ _ => Nat.lt_trans hm his⟩⟩

theorem source_joined {limits : Limits} {time : Seconds} {j : Nat}
    (hrun : (startAt limits time).run hs = some w) (hij : i < j)
    (hjoins : JoinsAt (startAt limits time) hs j c leader key flight)
    (hpending : Pending (startAt limits time) hs w leader key flight)
    (hknown : w.outcomes.get? flight = some (.ok lines)) :
    Source (startAt limits time) hs i c key lines := by
  obtain hown | ⟨e, outcome, hends, hpublished⟩ := hpending
  · rw [(run_numbered hrun).unknown leader key flight hown] at hknown
    cases hknown
  · rw [hknown] at hpublished
    cases hpublished
    obtain ⟨s, hstarts⟩ := ended_started hrun e leader key flight (.ok lines) hends
    exact ⟨leader, flight, s, e, hstarts, hends, .inr ⟨j, hij, hjoins⟩⟩

theorem follows_move {limits : Limits} {time : Seconds}
    (hrun : (startAt limits time).run hs = some w) (hi : i < hs.length)
    (h : Follows (startAt limits time) hs w i c key (w.phase c)) (hmove : Move w x next)
    (hx : ∀ k, x ≠ .ask c k ∧ x ≠ .get c k) :
    Follows (startAt limits time) (hs ++ [x]) next i c key (next.phase c) := by
  have hkept : Follows (startAt limits time) (hs ++ [x]) next i c key (w.phase c) :=
    h.move hrun (run_numbered hrun) (run_reported hrun) hmove hi
  -- Only the phase of the caller that moves has to be looked at.
  have hturn {v : Callers} {who : Caller} {phase : Phase}
      (hother : Follows (startAt limits time) (hs ++ [x]) v i c key (w.phase c))
      (hself : c = who → Follows (startAt limits time) (hs ++ [x]) v i c key phase) :
      Follows (startAt limits time) (hs ++ [x]) v i c key ((w.turn who phase).phase c) := by
    by_cases hc : c = who
    · rw [hc, turn_phase_self]
      exact hc ▸ hself hc
    · rw [turn_phase_ne w phase hc]
      exact hother
  cases hmove with
  | tick | contains | invalidate | invalidateAll => exact hkept
  | @get who k => exact hturn hkept fun hc => absurd (hc ▸ rfl) (hx k).2
  | @ask who k => exact hturn hkept fun hc => absurd (hc ▸ rfl) (hx k).1
  | timeToPeek hphase | peek hphase =>
    apply hturn hkept
    intro hc
    rw [hc, hphase] at h
    cases h
  | timeToLook hphase | miss hphase | take hphase | timeToCheck hphase | missAgain hphase
  | register hphase =>
    apply hturn hkept
    intro hc
    rw [hc, hphase] at h
    exact h
  | abandon hphase => exact hturn hkept fun _ _ => nofun
  | succeed hphase | fail hphase | timeToStore hphase | store hphase | withdrawStored hphase
  | withdrawFailed hphase =>
    apply hturn hkept
    intro hc
    rw [hc, hphase] at hkept
    exact hc ▸ hkept
  | find hphase hfound | findAgain hphase hfound =>
    apply hturn hkept
    intro hc
    subst hc
    rw [hphase] at h
    obtain rfl : _ = key := h
    rintro _ ⟨⟩
    exact source_kept hrun hi (by rw [hphase]; rfl) hfound
  | @join who k flight hphase _ hfound =>
    apply hturn hkept
    intro hc
    subst hc
    rw [hphase] at h
    obtain rfl : k = key := h
    obtain ⟨leader, hleads⟩ | hbehind := run_led hrun k flight hfound
    · exact .inl ⟨hs.length, leader, hi, ⟨w, occurs_last hrun, hphase, hfound, hleads⟩,
        .inl ((turn_keeps owns? (by rw [hphase]; rfl) leader).trans (owns_of_leads hleads))⟩
    · exact .inr hbehind.concat
  | @start who k flight hphase =>
    apply hturn hkept
    intro hc
    subst hc
    rw [hphase] at h
    obtain rfl : k = key := h
    exact ⟨rfl, hs.length, hi, w.now, hphase ▸ stepsAt_last hrun⟩
  | @publish who k flight outcome hphase =>
    apply hturn hkept
    intro hc
    subst hc
    rw [hphase] at h
    obtain ⟨rfl, s, his, hstarts⟩ := h
    intro lines hshare
    obtain rfl := mapError_ok.mp hshare
    exact (source_own hrun his hstarts hphase).concat hi
  | @learn who flight outcome hphase hknown =>
    apply hturn hkept
    intro hc
    subst hc
    rw [hphase] at h
    intro lines hshare
    obtain rfl := mapError_ok.mp hshare
    obtain ⟨j, leader, hij, hjoins, hleader⟩ | hbehind := h
    · exact (source_joined hrun hij hjoins hleader hknown).concat hi
    · rw [(run_orphaned hrun key flight hbehind).unknown] at hknown
      cases hknown

theorem run_follows {limits : Limits} {time : Seconds}
    (hrun : (startAt limits time).run hs = some w) :
    ∀ i c key, Began hs i c key → Follows (startAt limits time) hs w i c key (w.phase c) := by
  refine run_induction (P := fun hs w => ∀ i c key, Began hs i c key →
    Follows (startAt limits time) hs w i c key (w.phase c)) ?_ ?_ hrun
  · exact fun i c key h => absurd h.lt (Nat.not_lt_zero i)
  · intro hs w x next hrun ih hmove i c key h
    obtain ⟨hold, hx⟩ | ⟨-, rfl⟩ := began_concat h
    · exact follows_move hrun hold.lt (ih i c key hold) hmove hx
    · cases hmove
      rw [turn_phase_self]
      rfl

/-- A call that gets an output that it computed itself or that was kept gets it from a computation
that started after everything that had dropped the path before the call began. Any other output
comes from a computation that the call joined, and if this started before such a drop, it stores
nothing after the drop. -/
theorem answered_fresh {limits : Limits} {time : Seconds}
    (hrun : (startAt limits time).run hs = some w) (hbegan : Began hs i who key)
    (hphase : w.phase who = .answered (.ok lines)) :
    ∃ leader flight s e, StartsAt (startAt limits time) hs s leader key flight ∧
      EndsAt (startAt limits time) hs e leader key flight (.ok lines) ∧
      ((leader = who ∧ i < s ∨ Kept (startAt limits time) hs i who leader key flight lines) ∧
          (∀ m x, m < i → hs[m]? = some x → x.drops key.path.value = true → m < s) ∨
        (∃ j, i < j ∧ JoinsAt (startAt limits time) hs j who leader key flight) ∧
          ∀ m x, m < i → hs[m]? = some x → x.drops key.path.value = true →
            m < s ∨ ∀ l kept created,
              StoresAt (startAt limits time) hs l leader key flight kept created → l < m) := by
  have hfollows := run_follows hrun i who key hbegan
  rw [hphase] at hfollows
  obtain ⟨leader, flight, s, e, hstarts, hends, hsource⟩ := hfollows lines rfl
  refine ⟨leader, flight, s, e, hstarts, hends, ?_⟩
  apply hsource.imp_right
  intro hjoined
  refine ⟨hjoined, fun m x _ hx hdrops => ?_⟩
  by_cases hms : m < s
  · exact .inl hms
  · refine .inr fun l kept created hstores => ?_
    obtain ⟨t, hstarts', hleft⟩ := stored_undisturbed hrun l leader key flight kept created hstores
    obtain rfl := (run_started hrun).once s t leader leader key key flight hstarts hstarts'
    exact (hleft m x hx hdrops).resolve_left hms

theorem answered_fresh_anew :
    let key : CacheKey := ⟨"repository", ⟨"file", by decide⟩, "old", "new", .complete, none⟩
    let lines : List DiffLine := [.added "line" 1]
    let hs : List Happening := [.invalidate "file", .ask 0 key, .step 0, .step 0, .step 0, .step 0,
      .step 0, .step 0, .step 0, .result 0 (.ok lines), .step 0, .step 0, .step 0, .step 0]
    let first := startAt ⟨100, .whole 60, by decide, by decide⟩ (.whole 5)
    ∃ w, first.run hs = some w ∧ Began hs 1 0 key ∧ w.phase 0 = .answered (.ok lines) ∧
      ∃ leader flight s e, StartsAt first hs s leader key flight ∧
        EndsAt first hs e leader key flight (.ok lines) ∧
        (0 < s ∨ ∃ j, 1 < j ∧ JoinsAt first hs j 0 leader key flight) := by
  intro key lines hs first
  have hbegan : Began hs 1 0 key := by
    refine ⟨rfl, fun x hx k => ?_⟩
    constructor <;> rintro rfl <;> simp [hs] at hx
  have hfresh {w : Callers} (hrun : first.run hs = some w)
      (hphase : w.phase 0 = .answered (.ok lines)) := answered_fresh hrun hbegan hphase
  obtain ⟨leader, flight, s, e, hstarts, hends, hsource⟩ := hfresh rfl rfl
  refine ⟨_, rfl, hbegan, rfl, leader, flight, s, e, hstarts, hends, hsource.imp ?_ And.left⟩
  intro hanew
  exact hanew.2 0 (.invalidate "file") Nat.one_pos rfl rfl

/-- A call that begins after an invalidation joins a computation in progress, and every computation
that gave what it gets started before the invalidation. -/
theorem answered_stale :
    let key : CacheKey := ⟨"repository", ⟨"file", by decide⟩, "old", "new", .complete, none⟩
    let lines : List DiffLine := [.added "line" 1]
    let hs : List Happening := [.ask 0 key, .step 0, .step 0, .step 0, .step 0, .step 0, .step 0,
      .step 0, .invalidate "file", .ask 1 key, .step 1, .step 1, .step 1, .result 0 (.ok lines),
      .step 0, .step 0, .step 0, .step 0, .step 1]
    let first := startAt ⟨100, .whole 60, by decide, by decide⟩ (.whole 5)
    ∃ w, first.run hs = some w ∧ hs[8]? = some (.invalidate key.path.value) ∧ Began hs 9 1 key ∧
      w.phase 1 = .answered (.ok lines) ∧
      ∀ leader flight s e, StartsAt first hs s leader key flight →
        EndsAt first hs e leader key flight (.ok lines) → s < 8 := by
  intro key lines hs first
  have hlate : ∀ x ∈ hs.drop 10, ∀ k, x ≠ .ask 1 k ∧ x ≠ .get 1 k := by
    intro x hx k
    constructor <;> rintro rfl <;> simp [hs] at hx
  have hstart : StartsAt first hs 7 0 key 0 := ⟨_, _, ⟨rfl, rfl⟩, rfl, rfl⟩
  have hbefore {w : Callers} (hrun : first.run hs = some w) (hnext : w.cache.nextFlight = 1)
      {leader : Caller} {flight : Flight} {s : Nat} (h : StartsAt first hs s leader key flight) :
      s < 8 := by
    have hflight := (run_started hrun).below s leader key flight h
    rw [hnext] at hflight
    obtain rfl : flight = 0 := Nat.lt_one_iff.mp hflight
    rw [(run_started hrun).once s 7 leader 0 key key 0 h hstart]
    decide
  exact ⟨_, rfl, rfl, ⟨rfl, hlate⟩, rfl, fun _ _ _ _ hstarts _ => hbefore rfl rfl hstarts⟩

end ReviewDiff.Callers
