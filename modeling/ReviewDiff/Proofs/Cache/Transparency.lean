import ReviewDiff.Cache.Desk
import ReviewDiff.Proofs.Cache.Operation
import ReviewDiff.Proofs.Outcome
import ReviewDiff.Proofs.Work

/-!
# What a cache gives is what computing gives

As long as every entry is the truth about its key, asking the cache for a key comes to the same as
computing it, but for a fault, which is marked as one of a computation. Every operation keeps the
entries true, whatever it drops, because all that is ever stored is what a computation gave.

Output without a size is the exception. Who computes it gets an error, and its key stays in
progress, so whoever asks for it later waits for ever.
-/

set_option autoImplicit false

namespace ReviewDiff

open Work

variable {σ : Type} {P : σ → Prop} {truth : CacheKey → List DiffLine → Prop} {key : CacheKey}
  {outcome : Except Fault (List DiffLine)}

def Unsized (truth : CacheKey → List DiffLine → Prop) (key : CacheKey) : Prop :=
  ∃ lines e, truth key lines ∧ estimateSize lines = .error e

/-- The outside has a property, and every entry is the truth about its key. A key in progress is the
one that is computed now, if any, or it was left behind. -/
structure Desk.Sound (P : σ → Prop) (truth : CacheKey → List DiffLine → Prop)
    (current : Option CacheKey) (desk : Desk σ) : Prop where
  outside : P desk.outside
  inFlight : ∀ key flight, desk.cache.inFlight.get? key = some flight →
    current = some key ∨ Unsized truth key
  kept : ∀ e ∈ desk.cache.entries, truth e.key e.lines ∧ estimateSize e.lines = .ok e.size

namespace Desk

variable {current : Option CacheKey} {desk : Desk σ}

theorem lift_run {α : Type} (t : Work σ α) (s : Traced (Desk σ)) :
    (lift t).run s =
      let (outcome, next) := t.run ⟨s.state.outside, s.log⟩
      (outcome, ⟨{ s.state with outside := next.state }, next.log⟩) := rfl

theorem Sound.mono {P' : σ → Prop} (h : Sound P truth current desk) (hP : ∀ x, P x → P' x) :
    Sound P' truth current desk := ⟨hP _ h.outside, h.inFlight, h.kept⟩

theorem lift_sound {α : Type} {t : Work σ α} {Q : Except Fault α → σ → Prop} (ht : Meets P t Q) :
    Meets (Sound P truth current) (lift t) fun outcome desk =>
      Sound (Q outcome) truth current desk := by
  refine Meets.on fun desk hdesk => ht.mono (fun x hx => hx ▸ hdesk.outside) fun outcome x hx => ?_
  exact ⟨hx, hdesk.inFlight, hdesk.kept⟩

theorem lift_meets {α : Type} {t : Work σ α} {R : Except Fault α → Prop}
    (ht : Meets P t fun outcome x => R outcome ∧ P x) :
    Meets (Sound P truth current) (lift t) fun outcome desk =>
      R outcome ∧ Sound P truth current desk :=
  (lift_sound ht).mono (fun _ h => h) fun _ _ h => ⟨h.outside.1, h.mono fun _ hx => hx.2⟩

theorem lift_ofExcept {α : Type} (x : Except Fault α) :
    (lift (Work.ofExcept x) : Work (Desk σ) α) = Work.ofExcept x :=
  Work.ext fun _ => rfl

theorem lift_bind {α β : Type} (t : Work σ α) (f : α → Work σ β) :
    (lift (t >>= f) : Work (Desk σ) β) = lift t >>= fun a => lift (f a) := by
  refine Work.ext fun s => ?_
  cases hrun : t.run ⟨s.state.outside, s.log⟩ with
  | mk outcome next =>
    have hlift : (lift t : Work (Desk σ) α).run s =
        (outcome, ⟨{ s.state with outside := next.state }, next.log⟩) := by
      rw [lift_run, hrun]
    cases outcome with
    | ok a =>
      rw [run_bind_ok hlift, lift_run, run_bind_ok hrun]
      rfl
    | error e => rw [run_bind_error hlift, lift_run, run_bind_error hrun]

theorem onCache_meets {α : Type} {step : Seconds → DiffCache → α × DiffCache}
    {before : Desk σ → Prop} {Q : Except Fault α → Desk σ → Prop}
    (h : ∀ desk answer cache, before desk → step desk.now desk.cache = (answer, cache) →
      Q (.ok answer) { desk with cache := cache }) : Meets before (onCache step) Q :=
  Meets.change fun desk hdesk => h desk _ _ hdesk rfl

theorem Sound.apply (h : Sound P truth current desk) {operation : DiffCache.Operation}
    (hkeeps : operation.changesFlights = false)
    (hstores : ∀ key lines, operation.stores? = some (key, lines) → truth key lines) :
    Sound P truth current { desk with cache := desk.cache.apply operation } where
  outside := h.outside
  inFlight key flight hfound := h.inFlight key flight ((DiffCache.apply_inFlight hkeeps).1 ▸ hfound)
  kept e he := by
    obtain ⟨before, hmem, time, rfl⟩ | ⟨key, lines, started, now, size, rfl, hsize, -, -, rfl⟩ :=
      DiffCache.apply_entries he
    · exact h.kept before hmem
    · exact ⟨hstores key lines rfl, hsize⟩

theorem Sound.lookup (h : Sound P truth current desk) (counted : Bool) (now : Seconds)
    (key : CacheKey) :
    Sound P truth current { desk with cache := (desk.cache.lookup counted now key).2 } :=
  have hsound : Sound P truth current
      { desk with cache := desk.cache.apply (.lookup counted now key) } :=
    h.apply rfl fun _ _ hstored => by cases hstored
  hsound

theorem Sound.invalidate (h : Sound P truth current desk) (path : Points) :
    Sound P truth current { desk with cache := (desk.cache.invalidate path).2 } :=
  have hsound : Sound P truth current
      { desk with cache := desk.cache.apply (.invalidate path) } :=
    h.apply rfl fun _ _ hstored => by cases hstored
  hsound

theorem Sound.invalidateAll (h : Sound P truth current desk) :
    Sound P truth current { desk with cache := desk.cache.invalidateAll.2 } where
  outside := h.outside
  inFlight := h.inFlight
  kept _ he := absurd he List.not_mem_nil

theorem Sound.found (h : Sound P truth current desk) {counted : Bool} {now : Seconds}
    {lines : List DiffLine} (hfound : (desk.cache.lookup counted now key).1 = some lines) :
    truth key lines ∧ ∃ size, estimateSize lines = .ok size := by
  obtain ⟨e, hmem, rfl, rfl, -⟩ := DiffCache.lookup_hit hfound
  exact ⟨(h.kept e hmem).1, e.size, (h.kept e hmem).2⟩

theorem Sound.abandoned (h : Sound P truth (some key) desk) (hunsized : Unsized truth key) :
    Sound P truth none desk := by
  refine ⟨h.outside, fun k flight hfound => .inr ?_, h.kept⟩
  obtain heq | hold := h.inFlight k flight hfound
  · exact Option.some.inj heq ▸ hunsized
  · exact hold

theorem Sound.unregister (h : Sound P truth (some key) desk) :
    Sound P truth none { desk with cache := desk.cache.unregister key } := by
  refine ⟨h.outside, fun k flight hfound => .inr ?_, h.kept⟩
  have hk : key ≠ k := by
    rintro rfl
    exact nomatch hfound.symm.trans (Assoc.get?_remove_self desk.cache.inFlight key)
  have hbefore := h.inFlight k flight ((Assoc.get?_remove_ne _ hk).symm.trans hfound)
  exact hbefore.resolve_left fun heq => hk (Option.some.inj heq)

theorem advance_meets (span : Seconds) :
    Meets (Sound P truth current) (advance span : Work (Desk σ) Unit) fun _ desk =>
      Sound P truth current desk := by
  refine Meets.follow (R := fun _ => Sound P truth current)
    (Meets.get fun desk hdesk => ⟨desk, rfl, hdesk⟩) fun before => ?_
  split
  · exact Meets.modify fun desk hdesk => ⟨hdesk.outside, hdesk.inFlight, hdesk.kept⟩
  · exact Meets.fail fun desk hdesk => hdesk

end Desk

namespace DiffCache

open Desk

def concluded : Except Fault (List DiffLine) → Except Fault Unit
  | .ok lines => (estimateSize lines).mapError Fault.unsized |>.map fun _ => ()
  | .error _ => .ok ()

def leaderGets (outcome : Except Fault (List DiffLine)) : Except Fault (List DiffLine) :=
  (concluded outcome).bind fun _ => leaderShare outcome

/-- What asking the cache comes to, by what asking without it comes to and whether the key was left
behind before. -/
def reply {α : Type} (lines : α → List DiffLine) (behind : Bool) :
    Except Fault α → Except Fault α
  | .error e => .error (.computation e)
  | .ok a =>
    match estimateSize (lines a) with
    | .ok _ => .ok a
    | .error e => .error (if behind then .endless else .unsized e)

theorem leaderGets_ok {lines : List DiffLine} (h : leaderGets outcome = .ok lines) :
    outcome = .ok lines := by
  obtain ⟨-, -, hshare⟩ := bind_ok h
  exact mapError_ok.mp hshare

theorem leaderGets_eq (hfault : ∀ e, outcome = .error e → e.isInterrupt = false) :
    leaderGets outcome = reply id false outcome := by
  cases outcome with
  | ok lines =>
    simp only [leaderGets, concluded, reply, id]
    cases estimateSize lines <;> rfl
  | error e =>
    change Except.error (if e.isInterrupt then e else .computation e) = _
    rw [hfault e rfl]
    rfl

theorem lookup_meets (key : CacheKey) (kept behind : Bool) :
    Meets (fun desk => desk.cache.contains desk.now key = kept ∧
        desk.cache.inFlight.contains key = behind ∧ Sound P truth none desk)
      (onCache fun now => lookup true now key) fun answer desk =>
        ∃ found, answer = .ok found ∧ found.isSome = kept ∧
          (∀ lines, found = some lines → truth key lines ∧ ∃ size, estimateSize lines = .ok size) ∧
          (found = none → desk.cache.find? key = none) ∧
          desk.cache.inFlight.contains key = behind ∧ Sound P truth none desk := by
  refine onCache_meets fun desk found after hdesk hlookup => ?_
  obtain ⟨hkept, hbehind, hsound⟩ := hdesk
  have hfound : found = (desk.cache.lookup true desk.now key).1 := by rw [hlookup]
  have hafter : after = (desk.cache.lookup true desk.now key).2 := by rw [hlookup]
  refine ⟨found, rfl, ?_, fun lines hlines => ?_, fun hnone => ?_, ?_, ?_⟩
  · rw [hfound, lookup_isSome, hkept]
  · exact hsound.found (hfound.symm.trans hlines)
  · rw [hafter]
    exact lookup_miss (hfound.symm.trans hnone)
  · rw [hafter, (lookup_frame true desk.now key desk.cache).2.2.2.1, hbehind]
  · rw [hafter]
    exact hsound.lookup true desk.now key

theorem enter_meets (key : CacheKey) :
    Meets (fun desk => desk.cache.find? key = none ∧
        desk.cache.inFlight.contains key = false ∧ Sound P truth none desk)
      (onCache fun now => enter now key) fun entrance desk =>
        ∃ flight started, entrance = .ok (.leads flight started) ∧
          Sound P truth (some key) desk := by
  refine onCache_meets fun desk entrance after hdesk henter => ?_
  obtain ⟨habsent, hfree, hsound⟩ := hdesk
  have hempty : desk.cache.inFlight.get? key = none := by
    simpa [Assoc.contains] using hfree
  rw [enter, hempty, lookup_absent habsent] at henter
  obtain ⟨rfl, rfl⟩ := Prod.mk.inj henter
  refine ⟨desk.cache.nextFlight, _, rfl, hsound.outside, fun k flight hfound => ?_, hsound.kept⟩
  by_cases hk : key = k
  · exact .inl (congrArg some hk)
  · have hold := hsound.inFlight k flight ((Assoc.get?_put_ne _ _ hk).symm.trans hfound)
    exact .inr (hold.resolve_left (Option.some_ne_none k).symm)

theorem share_behind (compute : Work (Desk σ) (List DiffLine)) :
    Meets (fun desk => desk.cache.inFlight.contains key = true ∧ Sound P truth none desk)
      (share key compute) fun answer desk =>
        answer = .error .endless ∧ Sound P truth none desk := by
  rw [share]
  refine Meets.follow (R := fun entrance desk => (∃ flight, entrance = .joined flight) ∧
    Sound P truth none desk) (onCache_meets fun desk entrance after hdesk henter => ?_)
    fun entrance => Meets.given ?_
  · obtain ⟨hbehind, hsound⟩ := hdesk
    obtain ⟨flight, hfound⟩ := Option.isSome_iff_exists.mp hbehind
    rw [enter, hfound] at henter
    obtain ⟨rfl, rfl⟩ := Prod.mk.inj henter
    exact ⟨_, rfl, ⟨flight, rfl⟩, hsound⟩
  · rintro ⟨flight, rfl⟩
    exact Meets.follow (R := fun _ => Sound P truth none)
      (Meets.log fun desk hdesk => ⟨(), rfl, hdesk⟩) fun _ =>
      Meets.fail fun desk hdesk => ⟨rfl, hdesk⟩

theorem unregister_meets :
    Meets (Sound P truth (some key)) (onCache fun _ c => ((), c.unregister key))
      fun ended desk => ended = .ok () ∧ Sound P truth none desk := by
  refine onCache_meets fun desk answer after hdesk hstep => ?_
  obtain ⟨-, rfl⟩ := Prod.mk.inj hstep
  exact ⟨rfl, hdesk.unregister⟩

theorem conclude_meets {started : Generation}
    (htruth : ∀ lines, outcome = .ok lines → truth key lines) :
    Meets (Sound P truth (some key)) (conclude key started outcome : Work (Desk σ) Unit)
      fun ended desk => ended = concluded outcome ∧ Sound P truth none desk := by
  cases outcome with
  | error cause =>
    rw [conclude]
    exact Meets.follow (R := fun _ => Sound P truth none)
      (unregister_meets.mono (fun _ h => h) fun _ _ h => ⟨(), h⟩) fun _ =>
      Meets.log fun desk hdesk => ⟨rfl, hdesk⟩
  | ok lines =>
    have hstore : Meets (Sound P truth (some key))
        (onCache (store key lines started) : Work (Desk σ) Storing) fun answer desk =>
          ∃ storing, answer = .ok storing ∧
            (∃ before : DiffCache, ∃ now, storing = (before.store key lines started now).1) ∧
            Sound P truth (some key) desk := by
      refine onCache_meets fun desk storing after hdesk hstep => ⟨storing, rfl, ?_, ?_⟩
      · exact ⟨desk.cache, desk.now, (congrArg Prod.fst hstep).symm⟩
      · have hafter : after = desk.cache.apply (.store key lines started desk.now) :=
          (congrArg Prod.snd hstep).symm
        rw [hafter]
        refine hdesk.apply rfl ?_
        rintro _ _ ⟨⟩
        exact htruth lines rfl
    rw [conclude]
    refine Meets.follow (R := fun _ => Sound P truth (some key))
      (Meets.get fun desk hdesk => ⟨desk, rfl, hdesk⟩) fun before => ?_
    refine Meets.follow hstore fun storing => Meets.given ?_
    rintro ⟨cache, now, rfl⟩
    cases hsize : estimateSize lines with
    | error e =>
      rw [store_unsized hsize]
      refine Meets.fail fun desk hdesk => ⟨by rw [concluded, hsize]; rfl, ?_⟩
      exact hdesk.abandoned ⟨lines, e, htruth lines rfl, hsize⟩
    | ok size =>
      have hended : concluded (.ok lines) = .ok () := by rw [concluded, hsize]; rfl
      rw [hended]
      split
      · exact absurd ‹_› (store_sized hsize)
      · exact Meets.follow (R := fun _ => Sound P truth (some key))
          (Meets.logs _ fun desk hdesk => ⟨(), rfl, hdesk⟩) fun _ => unregister_meets

theorem lead_meets {t : Work σ (List DiffLine)} {Q : Except Fault (List DiffLine) → σ → Prop}
    (started : Generation) (ht : Meets P t Q)
    (htruth : ∀ lines x, Q (.ok lines) x → truth key lines) :
    Meets (Sound P truth (some key))
      (do
        Work.log (computingRecord key)
        let outcome ← (Desk.lift t).attempt
        conclude key started outcome
        Work.ofExcept (leaderShare outcome))
      fun answer desk =>
        ∃ outcome, answer = leaderGets outcome ∧ Sound (Q outcome) truth none desk := by
  refine Meets.follow (R := fun _ => Sound P truth (some key))
    (Meets.log fun desk hdesk => ⟨(), rfl, hdesk⟩) fun _ => ?_
  refine Meets.follow (R := fun outcome => Sound (Q outcome) truth (some key))
    (Meets.attempt ((lift_sound ht).mono (fun _ h => h) fun outcome _ h => ⟨outcome, rfl, h⟩))
    fun outcome => ?_
  have hends (htrue : ∀ lines, outcome = .ok lines → truth key lines) :
      Meets (Sound (Q outcome) truth (some key))
        (do conclude key started outcome
            Work.ofExcept (leaderShare outcome))
        fun answer desk => answer = leaderGets outcome ∧ Sound (Q outcome) truth none desk := by
    refine (conclude_meets htrue).bind (fun _ => Meets.given fun hended => ?_)
      fun e desk hdesk => ?_
    · refine Meets.ofExcept fun desk hdesk => ⟨?_, hdesk⟩
      rw [leaderGets, ← hended]
      rfl
    · refine ⟨?_, hdesk.2⟩
      rw [leaderGets, ← hdesk.1]
      rfl
  intro s hs
  have htrue (lines : List DiffLine) (heq : outcome = .ok lines) : truth key lines :=
    htruth lines s.state.outside (heq ▸ hs.outside)
  exact ⟨outcome, hends htrue s hs⟩

theorem getOrCompute_kept (key : CacheKey) (compute : Work (Desk σ) (List DiffLine)) :
    Meets (fun desk => desk.cache.contains desk.now key = true ∧ Sound P truth none desk)
      (getOrCompute key compute) fun answer desk =>
        ∃ lines size, answer = .ok lines ∧ truth key lines ∧ estimateSize lines = .ok size ∧
          Sound P truth none desk := by
  refine Meets.follow (R := fun found desk => found.isSome = true ∧
    (∀ lines, found = some lines → truth key lines ∧ ∃ size, estimateSize lines = .ok size) ∧
    Sound P truth none desk) (fun s hs => ?_) fun found => ?_
  · obtain ⟨found, hanswer, hsome, htrue, -, -, hsound⟩ :=
      lookup_meets key true _ s ⟨hs.1, rfl, hs.2⟩
    exact ⟨found, hanswer, hsome, htrue, hsound⟩
  · cases found with
    | some lines =>
      refine Meets.pure fun desk h => ?_
      obtain ⟨htrue, size, hsize⟩ := h.2.1 lines rfl
      exact ⟨lines, size, rfl, htrue, hsize, h.2.2⟩
    | none => exact fun s hs => absurd hs.1 Bool.false_ne_true

theorem getOrCompute_behind (key : CacheKey) (compute : Work (Desk σ) (List DiffLine)) :
    Meets (fun desk => desk.cache.contains desk.now key = false ∧
        desk.cache.inFlight.contains key = true ∧ Sound P truth none desk)
      (getOrCompute key compute) fun answer desk =>
        answer = .error .endless ∧ Sound P truth none desk := by
  refine Meets.follow (R := fun found desk => found = none ∧
    desk.cache.inFlight.contains key = true ∧ Sound P truth none desk)
    ((lookup_meets key false true).mono (fun _ h => h) fun _ _ h => ?_) fun found => ?_
  · obtain ⟨found, hanswer, hsome, -, -, hbehind, hsound⟩ := h
    exact ⟨found, hanswer, by simpa using hsome, hbehind, hsound⟩
  · refine Meets.given fun hfound => ?_
    subst hfound
    exact share_behind compute

/-- Where no entry is served and the key is not in progress, the computation runs once, and the
cache answers with what comes of it. -/
theorem getOrCompute_computed {t : Work σ (List DiffLine)}
    {Q : Except Fault (List DiffLine) → σ → Prop} (ht : Meets P t Q)
    (htruth : ∀ lines x, Q (.ok lines) x → truth key lines) :
    Meets (fun desk => desk.cache.contains desk.now key = false ∧
        desk.cache.inFlight.contains key = false ∧ Sound P truth none desk)
      (getOrCompute key (Desk.lift t)) fun answer desk =>
        ∃ outcome, answer = leaderGets outcome ∧ Sound (Q outcome) truth none desk := by
  refine Meets.follow (R := fun found desk => found = none ∧ desk.cache.find? key = none ∧
    desk.cache.inFlight.contains key = false ∧ Sound P truth none desk)
    ((lookup_meets key false false).mono (fun _ h => h) fun _ _ h => ?_) fun found => ?_
  · obtain ⟨found, hanswer, hsome, -, hnone, hfree, hsound⟩ := h
    have hfound : found = none := by simpa using hsome
    exact ⟨found, hanswer, hfound, hnone hfound, hfree, hsound⟩
  · refine Meets.given fun hfound => ?_
    subst hfound
    rw [share]
    refine (enter_meets key).bind (fun entrance s hs => ?_) fun _ _ h => ?_
    · obtain ⟨flight, started, ⟨⟩, hsound⟩ := hs
      exact lead_meets started ht htruth s hsound
    · obtain ⟨_, _, ⟨⟩, -⟩ := h

/-- Where computing comes to an outcome, and the truth about the key is nothing but this outcome,
the cache answers with it as far as it has a size, and the desk is as sound as before. -/
theorem getOrCompute_gives {t : Work σ (List DiffLine)} (ht : Gives P t outcome)
    (htruth : ∀ lines, truth key lines ↔ outcome = .ok lines)
    (hfault : ∀ e, outcome = .error e → e.isInterrupt = false) (behind : Bool) :
    Meets (fun desk => desk.cache.inFlight.contains key = behind ∧ Sound P truth none desk)
      (getOrCompute key (Desk.lift t)) fun answer desk =>
        answer = reply id behind outcome ∧ Sound P truth none desk := by
  intro s hs
  obtain ⟨hbehind, hsound⟩ := hs
  cases hkept : s.state.cache.contains s.state.now key with
  | true =>
    obtain ⟨lines, size, hanswer, hlines, hsize, hafter⟩ :=
      getOrCompute_kept key (Desk.lift t) s ⟨hkept, hsound⟩
    rw [hanswer, (htruth lines).mp hlines, reply, id, hsize]
    exact ⟨rfl, hafter⟩
  | false =>
    cases behind with
    | true =>
      obtain ⟨flight, hfound⟩ := Option.isSome_iff_exists.mp hbehind
      obtain ⟨lines, e, hlines, hsize⟩ := (hsound.inFlight key flight hfound).resolve_left nofun
      obtain ⟨hanswer, hafter⟩ :=
        getOrCompute_behind key (Desk.lift t) s ⟨hkept, hbehind, hsound⟩
      rw [hanswer, (htruth lines).mp hlines, reply, id, hsize]
      exact ⟨rfl, hafter⟩
    | false =>
      have htrue (lines : List DiffLine) (x : σ) (h : .ok lines = outcome ∧ P x) :
          truth key lines := (htruth lines).mpr h.1.symm
      obtain ⟨_, hanswer, hafter⟩ := getOrCompute_computed ht htrue s ⟨hkept, hbehind, hsound⟩
      obtain rfl := hafter.outside.1
      rw [hanswer, leaderGets_eq hfault]
      exact ⟨rfl, hafter.mono fun _ hx => hx.2⟩

theorem dropPath_meets {current : Option CacheKey} (path : Points) :
    Meets (Sound P truth current) (dropPath path : Work (Desk σ) Nat) fun _ desk =>
      Sound P truth current desk := by
  refine Meets.follow (R := fun _ => Sound P truth current)
    (onCache_meets fun desk count after hdesk hstep => ⟨count, rfl, ?_⟩) fun count => ?_
  · have hafter : after = (desk.cache.invalidate path).2 := (congrArg Prod.snd hstep).symm
    rw [hafter]
    exact hdesk.invalidate path
  · exact Meets.follow (R := fun _ => Sound P truth current)
      (Meets.log fun desk hdesk => ⟨(), rfl, hdesk⟩) fun _ => Meets.pure fun desk hdesk => hdesk

theorem dropAll_meets {current : Option CacheKey} :
    Meets (Sound P truth current) (dropAll : Work (Desk σ) Nat) fun _ desk =>
      Sound P truth current desk := by
  refine Meets.follow (R := fun _ => Sound P truth current)
    (onCache_meets fun desk count after hdesk hstep => ⟨count, rfl, ?_⟩) fun count => ?_
  · have hafter : after = desk.cache.invalidateAll.2 := (congrArg Prod.snd hstep).symm
    rw [hafter]
    exact hdesk.invalidateAll
  · exact Meets.follow (R := fun _ => Sound P truth current)
      (Meets.log fun desk hdesk => ⟨(), rfl, hdesk⟩) fun _ => Meets.pure fun desk hdesk => hdesk

end DiffCache

end ReviewDiff
