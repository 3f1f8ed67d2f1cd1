import Mathlib.Data.List.Nodup
import ReviewDiff.Cache.Table

/-!
# Operations on a cache

All that happens to a cache is one of a few atomic operations. An entry that is there afterwards was
there before, with a new time of its latest use at most, or is the one that was stored. Only an
invalidation changes a generation, and a generation that changed never comes back.
-/

set_option autoImplicit false

namespace ReviewDiff

def CacheEntry.IsUseOf (e before : CacheEntry) : Prop :=
  ∃ time, e = { before with lastAccess := time }

/-- Earlier in the order of everything's invalidations, and then of the path's own. -/
def Generation.Before (a b : Generation) : Prop :=
  a.whole < b.whole ∨ a.whole = b.whole ∧ a.path < b.path

namespace DiffCache

inductive Operation where
  | nothing
  | lookup (counted : Bool) (now : Seconds) (key : CacheKey)
  | register (key : CacheKey)
  | unregister (key : CacheKey)
  | store (key : CacheKey) (lines : List DiffLine) (started : Generation) (now : Seconds)
  | invalidate (path : Points)
  | invalidateAll

def apply (c : DiffCache) : Operation → DiffCache
  | .nothing => c
  | .lookup counted now key => (c.lookup counted now key).2
  | .register key => (c.register key).2
  | .unregister key => c.unregister key
  | .store key lines started now => (c.store key lines started now).2
  | .invalidate path => (c.invalidate path).2
  | .invalidateAll => c.invalidateAll.2

/-- Whether an operation drops all entries of a path, whatever it finds. -/
def Operation.drops (path : Points) : Operation → Bool
  | .invalidate dropped => dropped = path
  | .invalidateAll => true
  | _ => false

/-- Whether an operation changes the table of computations. -/
def Operation.changesFlights : Operation → Bool
  | .register _ => true
  | .unregister _ => true
  | _ => false

/-- The result that an operation may put into the table of entries, with its key. -/
def Operation.stores? : Operation → Option (CacheKey × List DiffLine)
  | .store key lines _ _ => some (key, lines)
  | _ => none

variable {c : DiffCache} {key : CacheKey} {e : CacheEntry} {now : Seconds}

theorem find?_some (h : c.find? key = some e) : e ∈ c.entries ∧ e.key = key :=
  ⟨List.mem_of_find?_eq_some h, by simpa using List.find?_some h⟩

theorem find?_none : c.find? key = none ↔ ∀ e ∈ c.entries, e.key ≠ key := by
  simp [find?, List.find?_eq_none]

theorem contains_absent (h : c.find? key = none) (now : Seconds) : c.contains now key = false := by
  rw [contains, h]
  rfl

theorem countMiss_eq (counted : Bool) (c : DiffCache) :
    c.countMiss counted = { c with misses := c.misses + counted.toNat } := by
  cases counted <;> rfl

theorem countHit_eq (counted : Bool) (c : DiffCache) :
    c.countHit counted = { c with hits := c.hits + counted.toNat } := by
  cases counted <;> rfl

theorem lookup_absent (h : c.find? key = none) (counted : Bool) (now : Seconds) :
    c.lookup counted now key = (none, { c with misses := c.misses + counted.toNat }) := by
  rw [lookup, h, ← countMiss_eq]

theorem lookup_expired (h : c.find? key = some e) (hexpired : c.isExpired now e = true)
    (counted : Bool) :
    c.lookup counted now key = (none, { c.drop key with
      expirations := c.expirations + 1, misses := c.misses + counted.toNat }) := by
  rw [lookup, h]
  simp only [hexpired, if_true, countMiss_eq]
  rfl

theorem lookup_found (h : c.find? key = some e) (hserved : c.isExpired now e = false)
    (counted : Bool) :
    c.lookup counted now key =
      (some e.lines, { c.touch now e with hits := c.hits + counted.toNat }) := by
  rw [lookup, h]
  simp only [hserved, countHit_eq]
  rfl

theorem lookup_cases (c : DiffCache) (now : Seconds) (key : CacheKey) :
    c.find? key = none ∨ (∃ e, c.find? key = some e ∧ c.isExpired now e = true) ∨
      ∃ e, c.find? key = some e ∧ c.isExpired now e = false := by
  cases hfind : c.find? key with
  | none => exact .inl rfl
  | some e =>
    cases hexpired : c.isExpired now e with
    | true => exact .inr (.inl ⟨e, rfl, hexpired⟩)
    | false => exact .inr (.inr ⟨e, rfl, hexpired⟩)

theorem lookup_hit {counted : Bool} {lines : List DiffLine}
    (h : (c.lookup counted now key).1 = some lines) :
    ∃ e ∈ c.entries, e.key = key ∧ e.lines = lines ∧ c.isExpired now e = false := by
  obtain hnone | ⟨e, hfind, hexpired⟩ | ⟨e, hfind, hserved⟩ := lookup_cases c now key
  · rw [lookup_absent hnone] at h
    cases h
  · rw [lookup_expired hfind hexpired] at h
    cases h
  · rw [lookup_found hfind hserved] at h
    obtain ⟨hmem, hkey⟩ := find?_some hfind
    exact ⟨e, hmem, hkey, Option.some.inj h, hserved⟩

theorem lookup_isSome (counted : Bool) (c : DiffCache) (now : Seconds) (key : CacheKey) :
    (c.lookup counted now key).1.isSome = c.contains now key := by
  obtain hnone | ⟨e, hfind, hexpired⟩ | ⟨e, hfind, hserved⟩ := lookup_cases c now key
  · rw [lookup_absent hnone, contains_absent hnone]
    rfl
  · rw [lookup_expired hfind hexpired, contains, hfind, Option.any_some, hexpired]
    rfl
  · rw [lookup_found hfind hserved, contains, hfind, Option.any_some, hserved]
    rfl

theorem drop_find? (c : DiffCache) (key : CacheKey) : (c.drop key).find? key = none := by
  rw [find?_none]
  intro e he
  simpa using (List.mem_filter.mp he).2

theorem drop_self (h : c.find? key = none) : c.drop key = c := by
  rw [find?_none] at h
  have hkept : c.entries.filter (fun e => !decide (e.key = key)) = c.entries := by
    rw [List.filter_eq_self]
    intro e he
    simp [h e he]
  have hdropped : c.entries.filter (fun e => decide (e.key = key)) = [] := by
    rw [List.filter_eq_nil_iff]
    intro e he
    simp [h e he]
  simp [drop, dropIf, hkept, hdropped, totalSize]

theorem lookup_miss {counted : Bool} (h : (c.lookup counted now key).1 = none) :
    (c.lookup counted now key).2.find? key = none := by
  obtain hnone | ⟨e, hfind, hexpired⟩ | ⟨e, hfind, hserved⟩ := lookup_cases c now key
  · rw [lookup_absent hnone]
    exact hnone
  · rw [lookup_expired hfind hexpired]
    exact drop_find? c key
  · rw [lookup_found hfind hserved] at h
    cases h

/-- The cache with a new result in it, before anything is evicted. -/
def filled (c : DiffCache) (key : CacheKey) (lines : List DiffLine) (size : Nat) (now : Seconds) :
    DiffCache :=
  ((c.drop key).insert ⟨key, lines, size, now, now⟩).sweep now

variable {lines : List DiffLine} {started : Generation} {size : Nat}

theorem store_stored (hsize : estimateSize lines = .ok size)
    (hstarted : started = c.generationOf key) (hfits : size ≤ c.limits.maxSize) (now : Seconds) :
    c.store key lines started now =
      (.stored (c.filled key lines size now).evict.1, (c.filled key lines size now).evict.2) := by
  simp only [store, hsize]
  rw [if_neg (not_not.mpr hstarted), if_neg (by omega)]
  rfl

theorem store_unsized {e : Unencodable} (hsize : estimateSize lines = .error e) (now : Seconds) :
    c.store key lines started now = (.unsized e, c) := by
  simp only [store, hsize]

theorem store_sized (hsize : estimateSize lines = .ok size) {e : Unencodable} :
    (c.store key lines started now).1 ≠ .unsized e := by
  simp only [store, hsize]
  split
  · exact Storing.noConfusion
  · split <;> exact Storing.noConfusion

theorem store_cases (c : DiffCache) (key : CacheKey) (lines : List DiffLine)
    (started : Generation) (now : Seconds) :
    ((c.store key lines started now).2 = c ∧
      ∀ evicted, (c.store key lines started now).1 ≠ .stored evicted) ∨
    ∃ size, estimateSize lines = .ok size ∧ started = c.generationOf key ∧
      size ≤ c.limits.maxSize ∧ c.store key lines started now =
        (.stored (c.filled key lines size now).evict.1,
          (c.filled key lines size now).evict.2) := by
  cases hsize : estimateSize lines with
  | error e =>
    rw [store_unsized hsize]
    exact .inl ⟨rfl, fun _ => Storing.noConfusion⟩
  | ok size =>
    by_cases hstarted : started = c.generationOf key
    · by_cases hfits : size ≤ c.limits.maxSize
      · exact .inr ⟨size, rfl, hstarted, hfits, store_stored hsize hstarted hfits now⟩
      · have hlarge : c.store key lines started now = (.tooLarge size, c) := by
          simp only [store, hsize]
          rw [if_neg (not_not.mpr hstarted), if_pos (by omega)]
        rw [hlarge]
        exact .inl ⟨rfl, fun _ => Storing.noConfusion⟩
    · have hinvalidated : c.store key lines started now = (.invalidated, c) := by
        simp only [store, hsize]
        rw [if_pos hstarted]
      rw [hinvalidated]
      exact .inl ⟨rfl, fun _ => Storing.noConfusion⟩

theorem excess_append (limit size : Int) (entries : List CacheEntry) :
    (excess limit size entries).1 ++ (excess limit size entries).2 = entries := by
  induction entries generalizing size with
  | nil => rfl
  | cons e rest ih =>
    rw [excess]
    split
    · exact congrArg (e :: ·) (ih (size - e.size))
    · rfl

theorem evict_append (c : DiffCache) : c.evict.1 ++ c.evict.2.entries = c.entries :=
  excess_append ..

theorem evict_sublist (c : DiffCache) : c.evict.2.entries.Sublist c.entries := by
  conv_rhs => rw [← evict_append c]
  exact List.sublist_append_right ..

theorem filled_sublist (c : DiffCache) (key : CacheKey) (lines : List DiffLine) (size : Nat)
    (now : Seconds) : (c.filled key lines size now).entries.Sublist
      ((c.drop key).entries ++ [⟨key, lines, size, now, now⟩]) :=
  List.filter_sublist

theorem lookup_entries {counted : Bool} (h : e ∈ (c.lookup counted now key).2.entries) :
    ∃ before ∈ c.entries, e.IsUseOf before := by
  obtain hnone | ⟨found, hfind, hexpired⟩ | ⟨found, hfind, hserved⟩ := lookup_cases c now key
  · rw [lookup_absent hnone] at h
    exact ⟨e, h, e.lastAccess, rfl⟩
  · rw [lookup_expired hfind hexpired] at h
    exact ⟨e, List.mem_of_mem_filter h, e.lastAccess, rfl⟩
  · rw [lookup_found hfind hserved] at h
    obtain hrest | hnew := List.mem_append.mp h
    · exact ⟨e, List.mem_of_mem_filter hrest, e.lastAccess, rfl⟩
    · exact ⟨found, (find?_some hfind).1, now, List.mem_singleton.mp hnew⟩

theorem store_entries (h : e ∈ (c.store key lines started now).2.entries) :
    e ∈ c.entries ∨ ∃ size, estimateSize lines = .ok size ∧ started = c.generationOf key ∧
      (∃ evicted, (c.store key lines started now).1 = .stored evicted) ∧
      e = ⟨key, lines, size, now, now⟩ := by
  obtain ⟨hsame, -⟩ | ⟨size, hsize, hstarted, -, hstored⟩ := store_cases c key lines started now
  · exact .inl (hsame ▸ h)
  · rw [hstored] at h ⊢
    have hfilled := (filled_sublist c key lines size now).subset ((evict_sublist _).subset h)
    obtain hrest | hnew := List.mem_append.mp hfilled
    · exact .inl (List.mem_of_mem_filter hrest)
    · exact .inr ⟨size, hsize, hstarted, ⟨_, rfl⟩, List.mem_singleton.mp hnew⟩

theorem invalidate_entries {path : Points} (h : e ∈ (c.invalidate path).2.entries) :
    e ∈ c.entries ∧ e.key.path.value ≠ path := by
  obtain ⟨hmem, hother⟩ := List.mem_filter.mp h
  exact ⟨hmem, by simpa using hother⟩

theorem apply_entries {operation : Operation} (h : e ∈ (c.apply operation).entries) :
    (∃ before ∈ c.entries, e.IsUseOf before) ∨
      ∃ key lines started now size, operation = .store key lines started now ∧
        estimateSize lines = .ok size ∧ started = c.generationOf key ∧
        (∃ evicted, (c.store key lines started now).1 = .stored evicted) ∧
        e = ⟨key, lines, size, now, now⟩ := by
  cases operation with
  | nothing => exact .inl ⟨e, h, e.lastAccess, rfl⟩
  | lookup counted now key => exact .inl (lookup_entries h)
  | register key => exact .inl ⟨e, h, e.lastAccess, rfl⟩
  | unregister key => exact .inl ⟨e, h, e.lastAccess, rfl⟩
  | store key lines started now =>
    obtain hmem | ⟨size, hsize, hstarted, hstored, hnew⟩ := store_entries h
    · exact .inl ⟨e, hmem, e.lastAccess, rfl⟩
    · exact .inr ⟨key, lines, started, now, size, rfl, hsize, hstarted, hstored, hnew⟩
  | invalidate path => exact .inl ⟨e, (invalidate_entries h).1, e.lastAccess, rfl⟩
  | invalidateAll => cases h

theorem apply_absent {operation : Operation} (h : c.find? key = none)
    (hstores : ∀ lines, operation.stores? ≠ some (key, lines)) :
    (c.apply operation).find? key = none := by
  rw [find?_none] at h ⊢
  intro e he hkey
  obtain ⟨before, hmem, time, rfl⟩ | ⟨stored, lines, _, _, _, rfl, -, -, -, rfl⟩ := apply_entries he
  · exact h before hmem hkey
  · obtain rfl : stored = key := hkey
    exact hstores lines rfl

theorem apply_dropped {operation : Operation} {path : Points} (hdrops : operation.drops path)
    (h : e ∈ (c.apply operation).entries) : e.key.path.value ≠ path := by
  cases operation with
  | invalidate dropped =>
    have hpath : dropped = path := by simpa [Operation.drops] using hdrops
    exact hpath ▸ (invalidate_entries h).2
  | invalidateAll => cases h
  | nothing | lookup | register | unregister | store => cases hdrops

theorem lookup_frame (counted : Bool) (now : Seconds) (key : CacheKey) (c : DiffCache) :
    let after := (c.lookup counted now key).2
    after.limits = c.limits ∧ after.generation = c.generation ∧
      after.pathGenerations = c.pathGenerations ∧ after.inFlight = c.inFlight ∧
      after.nextFlight = c.nextFlight ∧ after.evictions = c.evictions := by
  obtain hnone | ⟨e, hfind, hexpired⟩ | ⟨e, hfind, hserved⟩ := lookup_cases c now key
  · rw [lookup_absent hnone]
    exact ⟨rfl, rfl, rfl, rfl, rfl, rfl⟩
  · rw [lookup_expired hfind hexpired]
    exact ⟨rfl, rfl, rfl, rfl, rfl, rfl⟩
  · rw [lookup_found hfind hserved]
    exact ⟨rfl, rfl, rfl, rfl, rfl, rfl⟩

theorem store_frame (key : CacheKey) (lines : List DiffLine) (started : Generation)
    (now : Seconds) (c : DiffCache) :
    let after := (c.store key lines started now).2
    after.limits = c.limits ∧ after.generation = c.generation ∧
      after.pathGenerations = c.pathGenerations ∧ after.inFlight = c.inFlight ∧
      after.nextFlight = c.nextFlight ∧ after.hits = c.hits ∧ after.misses = c.misses := by
  obtain ⟨hsame, -⟩ | ⟨size, -, -, -, hstored⟩ := store_cases c key lines started now
  · rw [hsame]
    exact ⟨rfl, rfl, rfl, rfl, rfl, rfl, rfl⟩
  · rw [hstored]
    exact ⟨rfl, rfl, rfl, rfl, rfl, rfl, rfl⟩

theorem apply_limits (c : DiffCache) (operation : Operation) :
    (c.apply operation).limits = c.limits := by
  cases operation with
  | lookup counted now key => exact (lookup_frame counted now key c).1
  | store key lines started now => exact (store_frame key lines started now c).1
  | nothing | register | unregister | invalidate | invalidateAll => rfl

theorem apply_inFlight {operation : Operation} (hkeeps : operation.changesFlights = false) :
    (c.apply operation).inFlight = c.inFlight ∧
      (c.apply operation).nextFlight = c.nextFlight := by
  cases operation with
  | lookup counted now key =>
    obtain ⟨-, -, -, hflights, hnext, -⟩ := lookup_frame counted now key c
    exact ⟨hflights, hnext⟩
  | store key lines started now =>
    obtain ⟨-, -, -, hflights, hnext, -⟩ := store_frame key lines started now c
    exact ⟨hflights, hnext⟩
  | register | unregister => cases hkeeps
  | nothing | invalidate | invalidateAll => exact ⟨rfl, rfl⟩

theorem generationOf_congr {a b : DiffCache} (hwhole : a.generation = b.generation)
    (hpath : a.pathGenerations = b.pathGenerations) (key : CacheKey) :
    a.generationOf key = b.generationOf key := by
  rw [generationOf, generationOf, hwhole, hpath]

/-- The generation of a key comes after the present one where its path is dropped, and stays the
same otherwise. -/
theorem apply_generation (c : DiffCache) (operation : Operation) (key : CacheKey) :
    if operation.drops key.path.value then
      (c.generationOf key).Before ((c.apply operation).generationOf key)
    else (c.apply operation).generationOf key = c.generationOf key := by
  cases operation with
  | lookup counted now k =>
    obtain ⟨-, hwhole, hpath, -⟩ := lookup_frame counted now k c
    exact generationOf_congr hwhole hpath key
  | store k lines started now =>
    obtain ⟨-, hwhole, hpath, -⟩ := store_frame k lines started now c
    exact generationOf_congr hwhole hpath key
  | invalidate path =>
    by_cases h : path = key.path.value
    · simp [Operation.drops, h, apply, invalidate, generationOf, dropIf, Generation.Before,
        Assoc.get?_put_self]
    · simp [Operation.drops, h, apply, invalidate, generationOf, dropIf,
        Assoc.get?_put_ne _ _ h]
  | invalidateAll =>
    exact .inl (Nat.lt_succ_self c.generation)
  | nothing | register | unregister => rfl

end DiffCache

namespace Generation

theorem Before.ne {a b : Generation} (h : a.Before b) : a ≠ b := by
  rintro rfl
  obtain hwhole | ⟨-, hpath⟩ := h
  · exact Nat.lt_irrefl _ hwhole
  · exact Nat.lt_irrefl _ hpath

theorem Before.trans {a b c : Generation} (hab : a.Before b) (hbc : b.Before c) : a.Before c := by
  unfold Before at *
  omega

end Generation

end ReviewDiff
