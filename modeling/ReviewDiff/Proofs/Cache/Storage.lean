import ReviewDiff.Proofs.Cache.Accounting
import ReviewDiff.Proofs.Cache.Freshness

/-!
# What is stored

A leader notes the generation of its key before it computes. The generation is still the present one
exactly if nothing dropped the path of the key since, however often other paths were dropped. So a
result is stored exactly if it is within the budget and its path was left alone. What was stored is
there afterwards: its entry is the last one, so the sweep does not find it expired and the eviction
ends before it.
-/

set_option autoImplicit false

namespace ReviewDiff

namespace DiffCache

variable {c : DiffCache} {key : CacheKey} {lines : List DiffLine} {started : Generation}
  {now : Seconds} {size : Nat}

theorem excess_last {limit : Int} (front : List CacheEntry) (e : CacheEntry)
    (hfits : (e.size : Int) ≤ limit) :
    e ∈ (excess limit (totalSize (front ++ [e])) (front ++ [e])).2 := by
  induction front with
  | nil =>
    have hsize : ¬ limit < totalSize [e] := by
      rw [totalSize, totalSize]
      omega
    rw [List.nil_append, excess, if_neg hsize]
    exact List.mem_singleton_self e
  | cons first rest ih =>
    rw [List.cons_append, excess]
    split
    · have hrest : totalSize (first :: (rest ++ [e])) - first.size = totalSize (rest ++ [e]) := by
        rw [totalSize]
        omega
      rw [hrest]
      exact ih
    · simp

theorem isExpired_made (c : DiffCache) (key : CacheKey) (lines : List DiffLine) (size : Nat)
    (now : Seconds) : c.isExpired now ⟨key, lines, size, now, now⟩ = false :=
  Seconds.sub_self_lt c.limits.lifetime_pos now

theorem filled_last (c : DiffCache) (key : CacheKey) (lines : List DiffLine) (size : Nat)
    (now : Seconds) :
    ∃ front, (c.filled key lines size now).entries = front ++ [⟨key, lines, size, now, now⟩] := by
  have hfresh := isExpired_made ((c.drop key).insert ⟨key, lines, size, now, now⟩) key lines size now
  refine ⟨_, (List.filter_append ..).trans (congrArg _ ?_)⟩
  simp [hfresh]

theorem store_present (h : c.Orderly) (hsize : estimateSize lines = .ok size)
    (hstarted : started = c.generationOf key) (hfits : size ≤ c.limits.maxSize) (now : Seconds) :
    (c.store key lines started now).2.find? key = some ⟨key, lines, size, now, now⟩ ∧
      (c.store key lines started now).2.contains now key = true := by
  obtain ⟨front, hlast⟩ := filled_last c key lines size now
  have hfilled := h.filled hsize key now
  have hmem : ⟨key, lines, size, now, now⟩ ∈ (c.filled key lines size now).evict.2.entries := by
    have hkept := excess_last front ⟨key, lines, size, now, now⟩ (Int.ofNat_le.mpr hfits)
    rw [← hlast, ← hfilled.total] at hkept
    exact hkept
  have hfind := hfilled.evict.find?_own hmem
  have hfresh := isExpired_made (c.filled key lines size now).evict.2 key lines size now
  rw [store_stored hsize hstarted hfits]
  refine ⟨hfind, ?_⟩
  rw [contains, hfind, Option.any_some, hfresh]
  rfl

def Storable (c : DiffCache) (key : CacheKey) (lines : List DiffLine) (started : Generation) :
    Prop :=
  started = c.generationOf key ∧ ∃ size, estimateSize lines = .ok size ∧ size ≤ c.limits.maxSize

theorem store_refused (h : ¬ c.Storable key lines started) (now : Seconds) :
    (c.store key lines started now).2 = c := by
  obtain ⟨hsame, -⟩ | ⟨size, hsize, hstarted, hfits, -⟩ := store_cases c key lines started now
  · exact hsame
  · exact absurd ⟨hstarted, size, hsize, hfits⟩ h

theorem store_decides (h : c.Orderly) (habsent : c.find? key = none) (lines : List DiffLine)
    (started : Generation) (now : Seconds) :
    ((c.store key lines started now).2.find? key ≠ none ↔ c.Storable key lines started) ∧
    ((c.store key lines started now).2.find? key ≠ none → ∃ size, estimateSize lines = .ok size ∧
      (c.store key lines started now).2.find? key = some ⟨key, lines, size, now, now⟩ ∧
        (c.store key lines started now).2.contains now key = true) ∧
    ((c.store key lines started now).2.find? key = none →
      (c.store key lines started now).2 = c) := by
  by_cases hgood : c.Storable key lines started
  · obtain ⟨hstarted, size, hsize, hfits⟩ := hgood
    obtain ⟨hfind, hserved⟩ := store_present h hsize hstarted hfits now
    have hfound : (c.store key lines started now).2.find? key ≠ none := by
      rw [hfind]
      exact Option.some_ne_none _
    exact ⟨⟨fun _ => ⟨hstarted, size, hsize, hfits⟩, fun _ => hfound⟩,
      fun _ => ⟨size, hsize, hfind, hserved⟩, fun hnone => absurd hnone hfound⟩
  · have hsame := store_refused hgood now
    rw [hsame]
    exact ⟨⟨fun hfound => absurd habsent hfound, fun hnot => absurd hnot hgood⟩,
      fun hfound => absurd habsent hfound, fun _ => rfl⟩

theorem invalidate_kept (c : DiffCache) (path : Points) :
    (c.invalidate path).2.entries = c.entries.filter fun e => e.key.path.value ≠ path := by
  simp [invalidate, dropIf]

end DiffCache

def Phase.noted? : Phase → Option (CacheKey × Flight × Generation)
  | .computing key flight started => some (key, flight, started)
  | .computed key flight started _ => some (key, flight, started)
  | .storing key flight started _ _ => some (key, flight, started)
  | _ => none

namespace Callers

open DiffCache Phase

variable {first w v next : Callers} {hs : List Happening} {x : Happening} {who c : Caller}
  {phase : Phase} {key : CacheKey} {flight : Flight} {lines : List DiffLine} {s : Nat}
  {started : Generation} {now : Seconds} {path : Points}

theorem undisturbed_iff : Undisturbed hs s path ↔
    ∀ m x, s < m → hs[m]? = some x → x ≠ .invalidate path ∧ x ≠ .invalidateAll := by
  have hdrops (x : Happening) :
      x.drops path = false ↔ x ≠ .invalidate path ∧ x ≠ .invalidateAll := by
    cases x <;> simp [Happening.drops]
  simp only [Undisturbed, hdrops]

theorem Undisturbed.not_concat (hs : List Happening) (hlt : s < hs.length)
    (hdrops : x.drops path = true) : ¬ Undisturbed (hs ++ [x]) s path := by
  intro h
  have hlast := h hs.length x hlt List.getElem?_concat_length
  rw [hdrops] at hlast
  cases hlast

theorem Undisturbed.of_concat (h : Undisturbed (hs ++ [x]) s path) : Undisturbed hs s path := by
  intro m y hm hy
  apply h m y hm
  rw [List.getElem?_append_left (List.getElem?_eq_some_iff.mp hy).1]
  exact hy

theorem run_generation (hrun : first.run hs = some w) :
    ∀ s x v, Occurs first hs s x v → x.drops key.path.value = false →
      v.cache.generationOf key = w.cache.generationOf key ∧ Undisturbed hs s key.path.value ∨
      (v.cache.generationOf key).Before (w.cache.generationOf key) ∧
        ¬ Undisturbed hs s key.path.value := by
  refine run_induction (P := fun hs w => ∀ s x v, Occurs first hs s x v →
    x.drops key.path.value = false →
      v.cache.generationOf key = w.cache.generationOf key ∧ Undisturbed hs s key.path.value ∨
      (v.cache.generationOf key).Before (w.cache.generationOf key) ∧
        ¬ Undisturbed hs s key.path.value) ?_ ?_ hrun
  · intro s x v hoccurs _
    exact absurd hoccurs.lt (Nat.not_lt_zero s)
  · intro hs w y next hrun ih hmove s x v hoccurs hx
    have hgeneration := apply_generation w.cache (w.operation y) key
    rw [operation_drops, ← hmove.cache] at hgeneration
    obtain hold | ⟨rfl, rfl, hlast⟩ := occurs_concat hoccurs
    · cases hdrops : y.drops key.path.value with
      | true =>
        rw [hdrops, if_pos rfl] at hgeneration
        refine .inr ⟨?_, Undisturbed.not_concat hs hold.lt hdrops⟩
        obtain ⟨hsame, -⟩ | ⟨hpast, -⟩ := ih s x v hold hx
        · rw [hsame]
          exact hgeneration
        · exact hpast.trans hgeneration
      | false =>
        rw [hdrops, if_neg Bool.false_ne_true] at hgeneration
        rw [hgeneration]
        refine (ih s x v hold hx).imp ?_ ?_
        · intro h
          exact ⟨h.1, h.2.concat hdrops⟩
        · intro h
          exact ⟨h.1, fun hundisturbed => h.2 hundisturbed.of_concat⟩
    · rw [hx, if_neg Bool.false_ne_true] at hgeneration
      obtain rfl := Option.some.inj (hlast.symm.trans hrun)
      exact .inl ⟨hgeneration.symm, undisturbed_last hs x _⟩

theorem run_generation_iff (hrun : first.run hs = some w) (hoccurs : Occurs first hs s x v)
    (hx : x.drops key.path.value = false) :
    v.cache.generationOf key = w.cache.generationOf key ↔ Undisturbed hs s key.path.value := by
  obtain ⟨hsame, hundisturbed⟩ | ⟨hpast, hdisturbed⟩ := run_generation hrun s x v hoccurs hx
  · exact ⟨fun _ => hundisturbed, fun _ => hsame⟩
  · exact ⟨fun hsame => absurd hsame hpast.ne, fun h => absurd h hdisturbed⟩

def NotesAt (first : Callers) (hs : List Happening) (i : Nat) (leader : Caller) (key : CacheKey)
    (flight : Flight) (started : Generation) : Prop :=
  ∃ w, Occurs first hs i (.step leader) w ∧ w.phase leader = .registered key flight ∧
    started = w.cache.generationOf key

theorem NotesAt.concat (h : NotesAt first hs s c key flight started) :
    NotesAt first (hs ++ [x]) s c key flight started := by
  obtain ⟨v, hoccurs, hphase, hstarted⟩ := h
  exact ⟨v, hoccurs.concat, hphase, hstarted⟩

theorem NotesAt.starts (h : NotesAt first hs s c key flight started) :
    StartsAt first hs s c key flight := by
  obtain ⟨v, hoccurs, hphase, -⟩ := h
  exact ⟨v.now, v, hoccurs, hphase, rfl⟩

theorem Move.noted (h : Move w x next)
    (hnoted : (next.phase c).noted? = some (key, flight, started)) :
    (w.phase c).noted? = some (key, flight, started) ∨
      x = .step c ∧ w.phase c = .registered key flight ∧ started = w.cache.generationOf key := by
  cases h with
  | tick | contains | invalidate | invalidateAll => exact .inl hnoted
  | @start who k f hphase =>
    obtain ⟨rfl, hself⟩ | ⟨-, hold⟩ := turn_some hnoted
    · cases hself
      exact .inr ⟨rfl, hphase, rfl⟩
    · exact .inl hold
  | succeed hphase | timeToStore hphase =>
    refine .inl ((turn_keeps noted? ?_ c).symm.trans hnoted)
    rw [hphase]
    rfl
  | get | ask | timeToPeek | peek | timeToLook | find | miss | join | take | timeToCheck | findAgain
  | missAgain | register | fail | store | abandon | withdrawStored | withdrawFailed | publish
  | learn =>
    exact .inl (turn_others (f := noted?) rfl hnoted).2

theorem run_noted {limits : Limits} {time : Seconds}
    (hrun : (startAt limits time).run hs = some w) :
    ∀ c key flight started, (w.phase c).noted? = some (key, flight, started) →
      ∃ s, NotesAt (startAt limits time) hs s c key flight started := by
  refine run_induction (P := fun hs w => ∀ c key flight started,
    (w.phase c).noted? = some (key, flight, started) →
      ∃ s, NotesAt (startAt limits time) hs s c key flight started) ?_ ?_ hrun
  · intro c key flight started h
    cases h
  · intro hs w x next hrun ih hmove c key flight started h
    obtain hold | ⟨rfl, hphase, hstarted⟩ := hmove.noted h
    · obtain ⟨s, hs⟩ := ih c key flight started hold
      exact ⟨s, hs.concat⟩
    · exact ⟨hs.length, w, occurs_last hrun, hphase, hstarted⟩

/-- What the step of a leader that stores does to the table of entries. -/
structure StoresExactly (first : Callers) (hs : List Happening) (w : Callers) (leader : Caller)
    (key : CacheKey) (flight : Flight) (lines : List DiffLine) (now : Seconds) (next : Callers) :
    Prop where
  step : w.after (.step leader) = some next
  /-- The result is what the computation gave, and the leader read the clock after that. -/
  computed : ∃ j k started, j < k ∧ EndsAt first hs j leader key flight (.ok lines) ∧
    StepsAt first hs k leader (.computed key flight started lines) now
  /-- The key has no entry before. -/
  absent : w.cache.find? key = none
  /-- The result is put into the table exactly if it is within the budget and nothing dropped the
  path of the key after the leader noted the generation. Other paths do not matter. -/
  inserts : ∃ s, StartsAt first hs s leader key flight ∧
    (next.cache.find? key ≠ none ↔
      (∃ size, estimateSize lines = .ok size ∧ size ≤ first.cache.limits.maxSize) ∧
      ∀ m x, s < m → hs[m]? = some x → x ≠ .invalidate key.path.value ∧ x ≠ .invalidateAll)
  /-- What is put in is the result, and it is served at the time that the leader read for it. -/
  present : next.cache.find? key ≠ none → ∃ size, estimateSize lines = .ok size ∧
    next.cache.find? key = some ⟨key, lines, size, now, now⟩ ∧
      next.cache.contains now key = true
  /-- What is not put in leaves the cache as it is. -/
  refused : next.cache.find? key = none → next.cache = w.cache

/-- A leader stores its result exactly if it is within the budget and still good. An invalidation of
a path drops the entries of this path alone; the others stay as they are and in their order. -/
theorem storage_exact {limits : Limits} {time : Seconds}
    (hrun : (startAt limits time).run hs = some w) :
    (∀ leader key flight started lines now,
      w.phase leader = .storing key flight started lines now →
      ∃ next, StoresExactly (startAt limits time) hs w leader key flight lines now next) ∧
    ∀ path, ∃ next, w.after (.invalidate path) = some next ∧
      next.cache.entries = w.cache.entries.filter fun e => e.key.path.value ≠ path := by
  constructor
  · intro leader key flight started lines now hphase
    obtain ⟨s, hnotes⟩ := run_noted hrun leader key flight started (by rw [hphase]; rfl)
    have htold := (run_made hrun).1 leader
    rw [hphase] at htold
    obtain ⟨i, j, k, -, hjk, -, hends, hread, -⟩ := htold
    have habsent := (run_consistent hrun).bare leader key (by rw [hphase]; rfl)
    obtain ⟨horderly, hlimits, -⟩ := run_orderly hrun
    have hstarts := hnotes.starts
    obtain ⟨v, hoccurs, -, hnoted⟩ := hnotes
    have hgood : started = w.cache.generationOf key ↔ ∀ m x, s < m → hs[m]? = some x →
        x ≠ .invalidate key.path.value ∧ x ≠ .invalidateAll := by
      rw [hnoted, run_generation_iff hrun hoccurs rfl, undisturbed_iff]
    obtain ⟨hinserts, hpresent, hrefused⟩ := store_decides horderly habsent lines started now
    rw [Storable, hgood, hlimits, and_comm] at hinserts
    exact ⟨_, (storing_move hphase).after, ⟨j, k, started, hjk, hends, hread⟩, habsent,
      ⟨s, hstarts, hinserts⟩, hpresent, hrefused⟩
  · intro path
    exact ⟨_, rfl, invalidate_kept w.cache path⟩

/-- An invalidation of another path during the computation does not keep its result out. -/
theorem storage_exact_other :
    let key : CacheKey := ⟨"repository", ⟨"file", by decide⟩, "old", "new", .complete, none⟩
    let lines : List DiffLine := [.added "line" 1]
    let hs : List Happening := [.ask 0 key, .step 0, .step 0, .step 0, .step 0, .step 0, .step 0,
      .step 0, .invalidate "other", .result 0 (.ok lines), .tick (.whole 7), .step 0]
    let first := startAt ⟨100, .whole 60, by decide, by decide⟩ (.whole 5)
    ∃ w next, first.run hs = some w ∧ w.phase 0 = .storing key 0 ⟨0, 0⟩ lines (.whole 7) ∧
      StoresExactly first hs w 0 key 0 lines (.whole 7) next ∧
      next.cache.find? key = some ⟨key, lines, 68, .whole 7, .whole 7⟩ := by
  intro key lines hs first
  have hstorage {w : Callers} (hrun : first.run hs = some w)
      (hphase : w.phase 0 = .storing key 0 ⟨0, 0⟩ lines (.whole 7)) :
      ∃ next, StoresExactly first hs w 0 key 0 lines (.whole 7) next :=
    (storage_exact hrun).1 0 key 0 ⟨0, 0⟩ lines (.whole 7) hphase
  obtain ⟨next, hstores⟩ := hstorage rfl rfl
  obtain ⟨s, -, hinserts⟩ := hstores.inserts
  have hothers : ∀ m x, s < m → hs[m]? = some x →
      x ≠ .invalidate key.path.value ∧ x ≠ .invalidateAll := by
    intro m x _ hx
    have hmem := List.mem_of_getElem? hx
    have hpath : Points.ofString "file" ≠ Points.ofString "other" := by decide
    simp only [hs, List.mem_cons, List.not_mem_nil, or_false] at hmem
    constructor
    · rintro rfl
      simp [key, hpath] at hmem
    · rintro rfl
      simp at hmem
  have hsize : estimateSize lines = .ok 68 := rfl
  obtain ⟨size, hsize', hfound, -⟩ :=
    hstores.present (hinserts.mpr ⟨⟨68, hsize, by decide⟩, hothers⟩)
  obtain rfl : 68 = size := Except.ok.inj (hsize.symm.trans hsize')
  exact ⟨_, next, rfl, rfl, hstores, hfound⟩

end Callers

end ReviewDiff
