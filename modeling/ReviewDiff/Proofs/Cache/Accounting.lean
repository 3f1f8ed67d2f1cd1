import Mathlib.Algebra.Ring.Int.Defs
import Mathlib.Data.List.Count
import Mathlib.Data.List.Nodup
import ReviewDiff.Proofs.Cache.Leader

/-!
# The accounts of a cache

No two entries have one key, and the size of the cache is that of its entries and within the budget.
Every result that was ever stored is in the table, or was evicted, or was past its lifetime when it
was dropped, or was dropped by an invalidation that counted it. This needs that a result never takes
the place of an entry, which is so because the key of a computation has none. Every lookup that a
call begins with is a hit or a miss.
-/

set_option autoImplicit false

namespace ReviewDiff

namespace DiffCache

variable {c : DiffCache} {e : CacheEntry} {key : CacheKey} {lines : List DiffLine}
  {started : Generation} {now : Seconds} {size : Nat}

theorem totalSize_append (as bs : List CacheEntry) :
    totalSize (as ++ bs) = totalSize as + totalSize bs := by
  induction as with
  | nil => exact (Int.zero_add _).symm
  | cons a rest ih => rw [List.cons_append, totalSize, totalSize, ih, Int.add_assoc]

theorem totalSize_filter (test : CacheEntry → Bool) (entries : List CacheEntry) :
    totalSize (entries.filter fun e => !test e) + totalSize (entries.filter test) =
      totalSize entries := by
  induction entries with
  | nil => rfl
  | cons e rest ih =>
    cases h : test e <;> simp only [List.filter_cons, h, totalSize, Bool.not_false, Bool.not_true,
      if_true, Bool.false_eq_true, if_false] <;> omega

theorem totalSize_nonneg (entries : List CacheEntry) : 0 ≤ totalSize entries := by
  induction entries with
  | nil => exact Int.le_refl 0
  | cons e rest ih =>
    rw [totalSize]
    omega

theorem totalSize_eq_sum (entries : List CacheEntry) :
    totalSize entries = (entries.map fun e => (e.size : Int)).sum := by
  induction entries with
  | nil => rfl
  | cons e rest ih => rw [totalSize, List.map_cons, List.sum_cons, ih]

theorem excess_size {limit : Int} (hlimit : 0 ≤ limit) (entries : List CacheEntry) :
    totalSize (excess limit (totalSize entries) entries).2 ≤ limit := by
  induction entries with
  | nil => exact hlimit
  | cons e rest ih =>
    have hrest : totalSize (e :: rest) - e.size = totalSize rest := by
      rw [totalSize]
      omega
    rw [excess]
    split
    · rw [hrest]
      exact ih
    · exact Int.not_lt.mp ‹_›

structure Orderly (c : DiffCache) : Prop where
  distinct : (c.entries.map (·.key)).Nodup
  sized : ∀ e ∈ c.entries, estimateSize e.lines = .ok e.size
  total : c.size = totalSize c.entries

namespace Orderly

theorem own (h : c.Orderly) {a b : CacheEntry} (ha : a ∈ c.entries) (hb : b ∈ c.entries)
    (hkey : a.key = b.key) : a = b :=
  List.inj_on_of_nodup_map h.distinct ha hb hkey

theorem find?_own (h : c.Orderly) (he : e ∈ c.entries) : c.find? e.key = some e := by
  cases hfind : c.find? e.key with
  | none => exact absurd rfl (find?_none.mp hfind e he)
  | some found =>
    obtain ⟨hmem, hkey⟩ := find?_some hfind
    rw [h.own hmem he hkey]

theorem filter_own (h : c.Orderly) (he : e ∈ c.entries) :
    (c.entries.filter fun other => decide (other.key = e.key)) = [e] := by
  have hsame : ∀ other ∈ c.entries, decide (other.key = e.key) = (other == e) := by
    intro other hother
    by_cases hkey : other.key = e.key
    · rw [h.own hother he hkey]
      simp
    · have hne : other ≠ e := fun heq => hkey (congrArg CacheEntry.key heq)
      simp [hkey, hne]
  rw [List.filter_congr hsame, List.filter_beq, List.count_eq_one_of_mem h.distinct.of_map he]
  rfl

theorem sublist (h : c.Orderly) {entries : List CacheEntry} (hsub : entries.Sublist c.entries) :
    (entries.map (·.key)).Nodup ∧ ∀ e ∈ entries, estimateSize e.lines = .ok e.size :=
  ⟨h.distinct.sublist (hsub.map _), fun e he => h.sized e (hsub.subset he)⟩

theorem dropIf (h : c.Orderly) (test : CacheEntry → Bool) : (c.dropIf test).Orderly := by
  obtain ⟨hdistinct, hsized⟩ := h.sublist (List.filter_sublist (p := fun e => !test e))
  refine ⟨hdistinct, hsized, ?_⟩
  have hsplit := totalSize_filter test c.entries
  have htotal := h.total
  simp only [DiffCache.dropIf]
  omega

theorem drop (h : c.Orderly) (key : CacheKey) : (c.drop key).Orderly := h.dropIf _

theorem append (h : c.Orderly) {entries : List CacheEntry} (hsub : entries.Sublist c.entries)
    (habsent : ∀ other ∈ entries, other.key ≠ e.key) (hsize : estimateSize e.lines = .ok e.size) :
    ((entries ++ [e]).map (·.key)).Nodup ∧
      ∀ other ∈ entries ++ [e], estimateSize other.lines = .ok other.size := by
  obtain ⟨hdistinct, hsized⟩ := h.sublist hsub
  constructor
  · rw [List.map_append]
    refine hdistinct.append (List.nodup_singleton _) (List.disjoint_singleton.mpr fun hmem => ?_)
    obtain ⟨other, hother, hkey⟩ := List.mem_map.mp hmem
    exact habsent other hother hkey
  · intro other hother
    obtain hold | hnew := List.mem_append.mp hother
    · exact hsized other hold
    · rw [List.mem_singleton.mp hnew, hsize]

theorem touch (h : c.Orderly) (he : e ∈ c.entries) (now : Seconds) : (c.touch now e).Orderly := by
  obtain ⟨hdistinct, hsized⟩ := h.append (e := { e with lastAccess := now })
    (List.filter_sublist (p := fun other => !decide (other.key = e.key)))
    (fun other hother => by simpa using (List.mem_filter.mp hother).2) (h.sized e he)
  refine ⟨hdistinct, hsized, ?_⟩
  have hsplit := totalSize_filter (fun other => decide (other.key = e.key)) c.entries
  rw [h.filter_own he, totalSize, totalSize] at hsplit
  have htotal := h.total
  simp only [DiffCache.touch, totalSize_append, totalSize]
  omega

theorem insert (h : c.Orderly) (habsent : c.find? e.key = none)
    (hsize : estimateSize e.lines = .ok e.size) : (c.insert e).Orderly := by
  obtain ⟨hdistinct, hsized⟩ := h.append (List.Sublist.refl _) (find?_none.mp habsent) hsize
  refine ⟨hdistinct, hsized, ?_⟩
  simp only [DiffCache.insert, totalSize_append, totalSize, h.total]
  omega

theorem sweep (h : c.Orderly) (now : Seconds) : (c.sweep now).Orderly :=
  have hdropped := h.dropIf (c.isExpired now)
  ⟨hdropped.distinct, hdropped.sized, hdropped.total⟩

theorem filled (h : c.Orderly) (hsize : estimateSize lines = .ok size) (key : CacheKey)
    (now : Seconds) : (c.filled key lines size now).Orderly :=
  ((h.drop key).insert (drop_find? c key) hsize).sweep now

theorem evict (h : c.Orderly) : c.evict.2.Orderly := by
  obtain ⟨hdistinct, hsized⟩ := h.sublist (evict_sublist c)
  refine ⟨hdistinct, hsized, ?_⟩
  have hsplit := congrArg totalSize (evict_append c)
  rw [totalSize_append] at hsplit
  have htotal := h.total
  have hsize : c.evict.2.size = c.size - totalSize c.evict.1 := rfl
  omega

theorem lookup (h : c.Orderly) (counted : Bool) (now : Seconds) (key : CacheKey) :
    (c.lookup counted now key).2.Orderly := by
  obtain hnone | ⟨e, hfind, hexpired⟩ | ⟨e, hfind, hserved⟩ := lookup_cases c now key
  · rw [lookup_absent hnone]
    exact ⟨h.distinct, h.sized, h.total⟩
  · rw [lookup_expired hfind hexpired]
    have hdropped := h.drop key
    exact ⟨hdropped.distinct, hdropped.sized, hdropped.total⟩
  · rw [lookup_found hfind hserved]
    have htouched := h.touch (find?_some hfind).1 now
    exact ⟨htouched.distinct, htouched.sized, htouched.total⟩

theorem apply (h : c.Orderly) (operation : Operation) : (c.apply operation).Orderly := by
  cases operation with
  | lookup counted now key => exact h.lookup counted now key
  | store key lines started now =>
    obtain ⟨hsame, -⟩ | ⟨size, hsize, -, -, hstored⟩ := store_cases c key lines started now
    · rw [DiffCache.apply, hsame]
      exact h
    · rw [DiffCache.apply, hstored]
      exact (h.filled hsize key now).evict
  | invalidate path =>
    have hdropped := h.dropIf fun e => e.key.path.value = path
    exact ⟨hdropped.distinct, hdropped.sized, hdropped.total⟩
  | invalidateAll => exact ⟨List.nodup_nil, fun _ he => absurd he List.not_mem_nil, rfl⟩
  | nothing | register | unregister => exact ⟨h.distinct, h.sized, h.total⟩

end Orderly

theorem evict_budget (h : c.Orderly) : c.evict.2.size ≤ c.limits.maxSize := by
  rw [h.evict.total]
  have hkept : c.evict.2.entries = (excess c.limits.maxSize (totalSize c.entries) c.entries).2 := by
    rw [← h.total]
    rfl
  rw [hkept]
  exact excess_size (Int.natCast_nonneg _) c.entries

theorem dropIf_size (c : DiffCache) (test : CacheEntry → Bool) : (c.dropIf test).size ≤ c.size := by
  have hnonneg := totalSize_nonneg (c.entries.filter test)
  simp only [dropIf]
  omega

theorem lookup_size (counted : Bool) (now : Seconds) (key : CacheKey) (c : DiffCache) :
    (c.lookup counted now key).2.size ≤ c.size := by
  obtain hnone | ⟨e, hfind, hexpired⟩ | ⟨e, hfind, hserved⟩ := lookup_cases c now key
  · exact Int.le_of_eq (congrArg (fun found => found.2.size) (lookup_absent hnone counted now))
  · rw [lookup_expired hfind hexpired]
    exact dropIf_size c _
  · exact Int.le_of_eq (congrArg (fun found => found.2.size) (lookup_found hfind hserved counted))

theorem apply_budget (h : c.Orderly) (hbudget : c.size ≤ c.limits.maxSize) (operation : Operation) :
    (c.apply operation).size ≤ c.limits.maxSize := by
  cases operation with
  | lookup counted now key => exact Int.le_trans (lookup_size counted now key c) hbudget
  | store key lines started now =>
    obtain ⟨hsame, -⟩ | ⟨size, hsize, -, -, hstored⟩ := store_cases c key lines started now
    · rw [apply, hsame]
      exact hbudget
    · rw [apply, hstored]
      exact evict_budget (h.filled hsize key now)
  | invalidate path => exact Int.le_trans (dropIf_size c _) hbudget
  | invalidateAll => exact Int.natCast_nonneg _
  | nothing | register | unregister => exact hbudget

/-- Entries that are there, and those that went without an invalidation. -/
def balance (c : DiffCache) : Nat := c.entries.length + c.evictions + c.expirations

def storedBy (c : DiffCache) : Operation → Nat
  | .store key lines started now =>
    match (c.store key lines started now).1 with
    | .stored _ => 1
    | _ => 0
  | _ => 0

def droppedBy (c : DiffCache) : Operation → Nat
  | .invalidate path => (c.invalidate path).1
  | .invalidateAll => c.invalidateAll.1
  | _ => 0

def countedBy : Operation → Nat
  | .lookup counted _ _ => counted.toNat
  | _ => 0

theorem dropIf_length (c : DiffCache) (test : CacheEntry → Bool) :
    (c.dropIf test).entries.length + (c.entries.filter test).length = c.entries.length := by
  rw [Nat.add_comm]
  exact (List.length_eq_length_filter_add test).symm

theorem sweep_balance (now : Seconds) (c : DiffCache) : (c.sweep now).balance = c.balance := by
  have hlength := dropIf_length c (c.isExpired now)
  simp only [balance, sweep, dropIf] at hlength ⊢
  omega

theorem evict_balance (c : DiffCache) : c.evict.2.balance = c.balance := by
  have hlength := congrArg List.length (evict_append c)
  rw [List.length_append] at hlength
  have hevictions : c.evict.2.evictions = c.evictions + c.evict.1.length := rfl
  have hexpirations : c.evict.2.expirations = c.expirations := rfl
  rw [balance, balance, hevictions, hexpirations]
  omega

theorem filled_balance (habsent : c.find? key = none) (lines : List DiffLine) (size : Nat)
    (now : Seconds) : (c.filled key lines size now).balance = c.balance + 1 := by
  have hnone : (c.entries.filter fun e => e.key = key) = [] :=
    List.filter_eq_nil_iff.mpr fun e he => by simpa using find?_none.mp habsent e he
  have hlength := dropIf_length c fun e => e.key = key
  rw [hnone] at hlength
  rw [filled, sweep_balance]
  simp only [balance, insert, drop, dropIf, List.length_append, List.length_singleton,
    List.length_nil] at hlength ⊢
  omega

theorem lookup_balance (h : c.Orderly) (counted : Bool) (now : Seconds) (key : CacheKey) :
    (c.lookup counted now key).2.balance = c.balance := by
  obtain hnone | ⟨e, hfind, hexpired⟩ | ⟨e, hfind, hserved⟩ := lookup_cases c now key
  · rw [lookup_absent hnone]
    rfl
  all_goals
    obtain ⟨hmem, rfl⟩ := find?_some hfind
    have hlength := dropIf_length c fun other => other.key = e.key
    rw [h.filter_own hmem, List.length_singleton] at hlength
  · rw [lookup_expired hfind hexpired]
    simp only [balance, drop, dropIf] at hlength ⊢
    omega
  · rw [lookup_found hfind hserved]
    simp only [balance, touch, dropIf, List.length_append, List.length_singleton] at hlength ⊢
    omega

/-- What an operation adds to the results that came in, it adds to those that are accounted for. A
store must not find its key in the table. -/
theorem apply_balance (h : c.Orderly) {operation : Operation}
    (hbare : ∀ key lines started now, operation = .store key lines started now →
      c.find? key = none) :
    (c.apply operation).balance + c.droppedBy operation = c.balance + c.storedBy operation := by
  cases operation with
  | lookup counted now key => exact lookup_balance h counted now key
  | store key lines started now =>
    have habsent := hbare key lines started now rfl
    obtain ⟨hsame, hnot⟩ | ⟨size, -, -, -, hstored⟩ := store_cases c key lines started now
    · have hcount : c.storedBy (.store key lines started now) = 0 := by
        rw [storedBy]
        split
        · exact absurd ‹_› (hnot _)
        · rfl
      rw [apply, hsame, hcount]
      rfl
    · have hcount : c.storedBy (.store key lines started now) = 1 := by
        rw [storedBy, hstored]
      rw [apply, hcount, hstored, evict_balance, filled_balance habsent]
      rfl
  | invalidate path =>
    have hlength := dropIf_length c fun e => e.key.path.value = path
    simp only [balance, apply, invalidate, droppedBy, storedBy, dropIf] at hlength ⊢
    omega
  | invalidateAll =>
    simp only [balance, apply, invalidateAll, droppedBy, storedBy, List.length_nil]
    omega
  | nothing | register | unregister => rfl

theorem apply_lookups (c : DiffCache) (operation : Operation) :
    (c.apply operation).hits + (c.apply operation).misses =
      c.hits + c.misses + countedBy operation := by
  cases operation with
  | lookup counted now key =>
    obtain hnone | ⟨e, hfind, hexpired⟩ | ⟨e, hfind, hserved⟩ := lookup_cases c now key
    · rw [apply, lookup_absent hnone]
      exact (Nat.add_assoc ..).symm
    · rw [apply, lookup_expired hfind hexpired]
      exact (Nat.add_assoc ..).symm
    · rw [apply, lookup_found hfind hserved]
      exact Nat.add_right_comm ..
  | store key lines started now =>
    obtain ⟨-, -, -, -, -, hhits, hmisses⟩ := store_frame key lines started now c
    rw [apply, hhits, hmisses]
    rfl
  | nothing | register | unregister | invalidate | invalidateAll => rfl

end DiffCache

namespace Callers

open DiffCache

variable {first w next : Callers} {hs : List Happening} {x : Happening} {limits : Limits}
  {time : Seconds}

/-- Whether a caller does the lookup that its call begins with. -/
def firstLookup (w : Callers) : Happening → Nat
  | .step who =>
    match w.phase who with
    | .peeking _ _ => 1
    | .looking _ _ => 1
    | _ => 0
  | _ => 0

theorem countedBy_operation (w : Callers) (x : Happening) :
    countedBy (w.operation x) = w.firstLookup x := by
  cases x with
  | step who =>
    rw [operation, firstLookup]
    cases w.phase who <;> rfl
  | tick | get | ask | result | contains | invalidate | invalidateAll => rfl

/-- The accounts of the cache at a moment of a run. -/
structure Accounted (first : Callers) (hs : List Happening) (w : Callers) : Prop where
  distinct : (w.cache.entries.map (·.key)).Nodup
  /-- Every entry is the one that is found for its key. -/
  own : ∀ e ∈ w.cache.entries, w.cache.find? e.key = some e
  sized : ∀ e ∈ w.cache.entries, estimateSize e.lines = .ok e.size
  total : w.cache.size = (w.cache.entries.map fun e => (e.size : Int)).sum
  budget : w.cache.size ≤ first.cache.limits.maxSize
  /-- The results that were ever stored, and where they are. -/
  stored : tally (fun w x => w.cache.storedBy (w.operation x)) first hs =
    w.cache.entries.length + w.cache.evictions + w.cache.expirations +
      tally (fun w x => w.cache.droppedBy (w.operation x)) first hs
  lookups : w.cache.hits + w.cache.misses = tally firstLookup first hs

theorem run_orderly (hrun : (startAt limits time).run hs = some w) :
    w.cache.Orderly ∧ w.cache.limits = limits ∧ w.cache.size ≤ limits.maxSize := by
  refine run_induction (P := fun _ w => w.cache.Orderly ∧ w.cache.limits = limits ∧
    w.cache.size ≤ limits.maxSize) ?_ ?_ hrun
  · exact ⟨⟨List.nodup_nil, fun _ he => absurd he List.not_mem_nil, rfl⟩, rfl, Int.natCast_nonneg _⟩
  · intro hs w x next _ ⟨horderly, hlimits, hbudget⟩ hmove
    rw [hmove.cache]
    refine ⟨horderly.apply _, (apply_limits ..).trans hlimits, ?_⟩
    rw [← hlimits] at hbudget ⊢
    exact apply_budget horderly hbudget _

theorem operation_bare (hrun : (startAt limits time).run hs = some w) {key : CacheKey}
    {lines : List DiffLine} {started : Generation} {now : Seconds}
    (h : w.operation x = .store key lines started now) : w.cache.find? key = none := by
  obtain ⟨who, flight, rfl, hphase⟩ := operation_store h
  exact (run_consistent hrun).bare who key (by rw [hphase]; rfl)

theorem run_balance (hrun : (startAt limits time).run hs = some w) :
    tally (fun w x => w.cache.storedBy (w.operation x)) (startAt limits time) hs =
      w.cache.balance +
        tally (fun w x => w.cache.droppedBy (w.operation x)) (startAt limits time) hs := by
  refine run_induction (P := fun hs w =>
    tally (fun w x => w.cache.storedBy (w.operation x)) (startAt limits time) hs = w.cache.balance +
      tally (fun w x => w.cache.droppedBy (w.operation x)) (startAt limits time) hs) rfl ?_ hrun
  intro hs w x next hrun ih hmove
  have hstep := apply_balance (run_orderly hrun).1 fun _ _ _ _ => operation_bare (x := x) hrun
  rw [← hmove.cache] at hstep
  rw [tally_concat _ hrun, tally_concat _ hrun]
  omega

theorem run_lookups (hrun : (startAt limits time).run hs = some w) :
    w.cache.hits + w.cache.misses = tally firstLookup (startAt limits time) hs := by
  refine run_induction (P := fun hs w =>
    w.cache.hits + w.cache.misses = tally firstLookup (startAt limits time) hs) rfl ?_ hrun
  intro hs w x next hrun ih hmove
  rw [tally_concat _ hrun, hmove.cache, apply_lookups, countedBy_operation, ih]

/-- The accounts are right at every moment of a run. -/
theorem run_accounted (hrun : (startAt limits time).run hs = some w) :
    Accounted (startAt limits time) hs w := by
  obtain ⟨horderly, -, hbudget⟩ := run_orderly hrun
  exact ⟨horderly.distinct, fun e he => horderly.find?_own he, horderly.sized,
    horderly.total.trans (totalSize_eq_sum _), hbudget, run_balance hrun, run_lookups hrun⟩

/-- A result is stored, served and dropped by an invalidation. -/
theorem run_accounted_dropped :
    let key : CacheKey := ⟨"repository", ⟨"file", by decide⟩, "old", "new", .complete, none⟩
    let hs : List Happening := [.ask 0 key, .step 0, .step 0, .step 0, .step 0, .step 0, .step 0,
      .step 0, .result 0 (.ok [.added "line" 1]), .step 0, .step 0, .step 0, .step 0, .get 1 key,
      .step 1, .step 1, .invalidate "file"]
    let first := startAt ⟨100, .whole 60, by decide, by decide⟩ (.whole 5)
    ∃ w, first.run hs = some w ∧ Accounted first hs w :=
  ⟨_, rfl, run_accounted rfl⟩

end Callers

end ReviewDiff
