import ReviewDiff.Proofs.Cache.Storage
import ReviewDiff.Proofs.Cache.Waiters

/-!
# The least recently used goes first

A use of an entry is a lookup that it answers, or the store that puts it in. The table of entries is
in the order of the latest uses, however the steps of callers come. Where callers take turns, the
times of these uses are in order too, because nobody reads the clock between the reading of another
one and its use.

A store takes the entries past their lifetime out, then the shortest front of what is left that
makes room, and puts its own entry at the end.
-/

set_option autoImplicit false

namespace ReviewDiff

namespace Seconds

theorem le_trans {a b c : Seconds} (hab : a.le b = true) (hbc : b.le c = true) :
    a.le c = true := by
  rw [le] at *
  cases ha : a.value? with
  | some x =>
    cases hb : b.value? with
    | some y =>
      cases hc : c.value? with
      | some z =>
        simp only [ha, hb, hc, decide_eq_true_eq] at *
        exact hab.trans hbc
      | none => simpa [hb, hc] using hbc
    | none =>
      have hhigh : b.infinite? = some false := by simpa [ha, hb] using hab
      cases hc : c.value? <;> cases hc' : c.infinite? <;> simp_all
  | none =>
    cases hb : b.value? with
    | some y =>
      have hlow : a.infinite? = some true := by simpa [ha, hb] using hab
      cases hc : c.value? <;> cases hc' : c.infinite? <;> simp_all
    | none =>
      cases ha' : a.infinite? <;> cases hb' : b.infinite? <;> cases hc : c.value? <;>
        cases hc' : c.infinite? <;> simp_all
      rcases hbc with rfl | hhigh
      · exact .inl (by simpa using hab)
      · exact .inr hhigh

def NotAfter (a b : Seconds) : Prop := a = b ∨ a.le b = true

theorem NotAfter.trans {a b c : Seconds} (hab : a.NotAfter b) (hbc : b.NotAfter c) :
    a.NotAfter c := by
  rcases hab with rfl | hab
  · exact hbc
  rcases hbc with rfl | hbc
  · exact .inr hab
  · exact .inr (le_trans hab hbc)

end Seconds

namespace DiffCache

variable {c : DiffCache} {key : CacheKey} {lines : List DiffLine} {started : Generation}
  {now : Seconds} {size : Nat} {operation : Operation}

theorem excess_front {limit : Int} (front : List CacheEntry) {e : CacheEntry}
    (hfits : (e.size : Int) ≤ limit) :
    ∃ out kept, front = out ++ kept ∧
      excess limit (totalSize (front ++ [e])) (front ++ [e]) = (out, kept ++ [e]) ∧
      totalSize (kept ++ [e]) ≤ limit ∧
      ∀ m, m < out.length → limit < totalSize (front.drop m ++ [e]) := by
  -- the size that the eviction goes by is that of what it has not looked at yet
  induction front with
  | nil =>
    have hsize : totalSize [e] ≤ limit := by simpa [totalSize] using hfits
    refine ⟨[], [], rfl, ?_, hsize, by simp⟩
    rw [List.nil_append, excess, if_neg (by omega)]
  | cons first front ih =>
    have hrest : totalSize (first :: (front ++ [e])) - first.size = totalSize (front ++ [e]) := by
      rw [totalSize]
      omega
    by_cases hover : limit < totalSize (first :: (front ++ [e]))
    · obtain ⟨out, kept, hsplit, hexcess, hroom, hshortest⟩ := ih
      refine ⟨first :: out, kept, by rw [hsplit, List.cons_append], ?_, hroom, ?_⟩
      · rw [List.cons_append, excess, if_pos hover, hrest, hexcess]
      · intro m hm
        cases m with
        | zero => simpa using hover
        | succ m => exact hshortest m (by simpa using hm)
    · refine ⟨[], first :: front, rfl, ?_, by simpa using hover, by simp⟩
      rw [List.cons_append, excess, if_neg hover]

/-- The entries that are left for a new result of a key to come behind: those within their lifetime,
but for the one of the key. -/
def living (c : DiffCache) (key : CacheKey) (now : Seconds) : List CacheEntry :=
  (c.drop key).entries.filter fun e => !c.isExpired now e

theorem filled_living (c : DiffCache) (key : CacheKey) (lines : List DiffLine) (size : Nat)
    (now : Seconds) : (c.filled key lines size now).entries =
      c.living key now ++ [⟨key, lines, size, now, now⟩] := by
  have hfresh := isExpired_made ((c.drop key).insert ⟨key, lines, size, now, now⟩) key lines size now
  refine (List.filter_append ..).trans (congrArg (c.living key now ++ ·) ?_)
  simp [hfresh]

theorem store_room (h : c.Orderly) (hsize : estimateSize lines = .ok size)
    (hstarted : started = c.generationOf key) (hfits : size ≤ c.limits.maxSize) (now : Seconds) :
    ∃ out kept, c.living key now = out ++ kept ∧
      (c.store key lines started now).1 = .stored out ∧
      (c.store key lines started now).2.entries = kept ++ [⟨key, lines, size, now, now⟩] ∧
      totalSize (kept ++ [⟨key, lines, size, now, now⟩]) ≤ c.limits.maxSize ∧
      ∀ m, m < out.length → c.limits.maxSize <
        totalSize ((c.living key now).drop m ++ [⟨key, lines, size, now, now⟩]) := by
  obtain ⟨out, kept, hsplit, hexcess, hroom, hshortest⟩ :=
    excess_front (c.living key now) (e := ⟨key, lines, size, now, now⟩) (Int.ofNat_le.mpr hfits)
  rw [← filled_living, ← (h.filled hsize key now).total] at hexcess
  have hevicted : (c.filled key lines size now).evict.1 = out := congrArg Prod.fst hexcess
  have hkept : (c.filled key lines size now).evict.2.entries =
      kept ++ [⟨key, lines, size, now, now⟩] := congrArg Prod.snd hexcess
  rw [store_stored hsize hstarted hfits, hevicted]
  exact ⟨out, kept, hsplit, rfl, hkept, hroom, hshortest⟩

theorem store_counts (hsize : estimateSize lines = .ok size) (hstarted : started = c.generationOf key)
    (hfits : size ≤ c.limits.maxSize) {evicted : List CacheEntry}
    (h : (c.store key lines started now).1 = .stored evicted) :
    (c.store key lines started now).2.expirations =
        c.expirations + ((c.drop key).entries.filter (c.isExpired now)).length ∧
      (c.store key lines started now).2.evictions = c.evictions + evicted.length := by
  rw [store_stored hsize hstarted hfits] at h ⊢
  have hevicted : (c.filled key lines size now).evict.1 = evicted := Storing.stored.inj h
  have hfresh : c.limits.lifetime.le (now.sub now) = false :=
    Seconds.sub_self_lt c.limits.lifetime_pos now
  have hswept : (c.filled key lines size now).expirations =
      c.expirations + ((c.drop key).entries.filter (c.isExpired now)).length := by
    refine congrArg (fun swept : List CacheEntry => c.expirations + swept.length) ?_
    refine (List.filter_append ..).trans ?_
    simp [hfresh, isExpired, insert, drop, dropIf]
  constructor
  · exact hswept
  · rw [← hevicted]
    rfl

theorem drop_absent (h : c.find? key = none) : (c.drop key).entries = c.entries := by
  rw [drop_self h]

def use? (c : DiffCache) : Operation → Option (CacheKey × Seconds)
  | .lookup counted now key =>
    if (c.lookup counted now key).1.isSome then some (key, now) else none
  | .store key lines started now =>
    match (c.store key lines started now).1 with
    | .stored _ => some (key, now)
    | _ => none
  | _ => none

def Operation.time? : Operation → Option Seconds
  | .lookup _ now _ => some now
  | .store _ _ _ now => some now
  | _ => none

theorem use?_time (h : c.use? operation = some (key, now)) : operation.time? = some now := by
  cases operation with
  | nothing | register | unregister | invalidate | invalidateAll => simp [use?] at h
  | lookup counted now key =>
    rw [use?] at h
    split at h
    · cases h
      rfl
    · cases h
  | store key lines started now =>
    rw [use?] at h
    split at h
    · cases h
      rfl
    · cases h

theorem apply_unused (h : c.use? operation = none) :
    (c.apply operation).entries.Sublist c.entries := by
  cases operation with
  | nothing | register | unregister => exact List.Sublist.refl _
  | invalidate path => exact List.filter_sublist
  | invalidateAll => exact List.nil_sublist _
  | lookup counted now key =>
    rcases lookup_cases c now key with hnone | ⟨e, hfind, hexpired⟩ | ⟨e, hfind, hserved⟩
    · rw [apply, lookup_absent hnone]
    · rw [apply, lookup_expired hfind hexpired]
      exact List.filter_sublist
    · simp [use?, lookup_found hfind hserved] at h
  | store key lines started now =>
    rcases store_cases c key lines started now with ⟨hsame, -⟩ | ⟨size, -, -, -, hstored⟩
    · rw [apply, hsame]
    · simp [use?, hstored] at h

theorem apply_used (horderly : c.Orderly) (h : c.use? operation = some (key, now)) :
    ∃ front e, (c.apply operation).entries = front ++ [e] ∧ front.Sublist (c.drop key).entries ∧
      e.key = key ∧ e.lastAccess = now := by
  cases operation with
  | nothing | register | unregister | invalidate | invalidateAll => simp [use?] at h
  | lookup counted now key =>
    rcases lookup_cases c now key with hnone | ⟨e, hfind, hexpired⟩ | ⟨e, hfind, hserved⟩
    · simp [use?, lookup_absent hnone] at h
    · simp [use?, lookup_expired hfind hexpired] at h
    · simp only [use?, lookup_found hfind hserved, Option.isSome_some, if_true, Option.some.injEq,
        Prod.mk.injEq] at h
      obtain ⟨rfl, rfl⟩ := h
      obtain ⟨-, rfl⟩ := find?_some hfind
      rw [apply, lookup_found hfind hserved]
      exact ⟨_, _, rfl, List.Sublist.refl _, rfl, rfl⟩
  | store key lines started now =>
    rcases store_cases c key lines started now with
      ⟨-, hnot⟩ | ⟨size, hsize, hstarted, hfits, hstored⟩
    · rw [use?] at h
      split at h
      · exact absurd ‹_› (hnot _)
      · cases h
    · simp only [use?, hstored, Option.some.injEq, Prod.mk.injEq] at h
      obtain ⟨rfl, rfl⟩ := h
      obtain ⟨out, kept, hsplit, -, hentries, -⟩ := store_room horderly hsize hstarted hfits now
      refine ⟨kept, _, hentries, ?_, rfl, rfl⟩
      have hkept : kept.Sublist (c.living key now) := hsplit ▸ List.sublist_append_right out kept
      exact hkept.trans List.filter_sublist

end DiffCache

namespace Phase

def reading? : Phase → Option Seconds
  | .peeking _ now => some now
  | .looking _ now => some now
  | .checking _ now => some now
  | .storing _ _ _ _ now => some now
  | _ => none

def rests : Phase → Bool
  | .idle => true
  | .got _ => true
  | .answered _ => true
  | .computing _ _ _ => true
  | _ => false

end Phase

def Happening.begins? : Happening → Option Caller
  | .get who _ => some who
  | .ask who _ => some who
  | .result who _ => some who
  | _ => none

namespace Callers

open DiffCache Phase

variable {first w next : Callers} {hs : List Happening} {x : Happening} {c who : Caller}
  {key : CacheKey} {now time : Seconds} {limits : Limits} {i : Nat}

def UsedAt (first : Callers) (hs : List Happening) (i : Nat) (key : CacheKey) (time : Seconds) :
    Prop :=
  ∃ x w, Occurs first hs i x w ∧ w.cache.use? (w.operation x) = some (key, time)

def LastUsedAt (first : Callers) (hs : List Happening) (i : Nat) (key : CacheKey)
    (time : Seconds) : Prop :=
  UsedAt first hs i key time ∧ ∀ j later, i < j → ¬ UsedAt first hs j key later

theorem usedAt_concat (hrun : first.run hs = some w) (h : UsedAt first (hs ++ [x]) i key time) :
    UsedAt first hs i key time ∨
      i = hs.length ∧ w.cache.use? (w.operation x) = some (key, time) := by
  obtain ⟨y, v, hoccurs, huse⟩ := h
  rcases occurs_concat hoccurs with hold | ⟨hi, rfl, hlast⟩
  · exact .inl ⟨y, v, hold, huse⟩
  · obtain rfl := Option.some.inj (hlast.symm.trans hrun)
    exact .inr ⟨hi, huse⟩

theorem UsedAt.lt (h : UsedAt first hs i key time) : i < hs.length := by
  obtain ⟨y, v, hoccurs, -⟩ := h
  exact hoccurs.lt

theorem LastUsedAt.concat (hrun : first.run hs = some w) (h : LastUsedAt first hs i key time)
    (hother : ∀ later, w.cache.use? (w.operation x) ≠ some (key, later)) :
    LastUsedAt first (hs ++ [x]) i key time := by
  obtain ⟨⟨y, v, hoccurs, huse⟩, hlast⟩ := h
  refine ⟨⟨y, v, hoccurs.concat, huse⟩, ?_⟩
  intro j later hj hused
  rcases usedAt_concat hrun hused with hold | ⟨-, hnew⟩
  · exact hlast j later hj hold
  · exact hother later hnew

theorem lastUsedAt_last (hrun : first.run hs = some w)
    (huse : w.cache.use? (w.operation x) = some (key, time)) :
    LastUsedAt first (hs ++ [x]) hs.length key time := by
  refine ⟨⟨x, w, occurs_last hrun, huse⟩, ?_⟩
  intro j later hj hused
  have hlt := hused.lt
  simp at hlt
  omega

structure InOrder (first : Callers) (hs : List Happening) (entries : List CacheEntry) : Prop where
  used : ∀ e ∈ entries, ∃ i, LastUsedAt first hs i e.key e.lastAccess
  order : entries.Pairwise fun a b => ∃ i j, i < j ∧
    LastUsedAt first hs i a.key a.lastAccess ∧ LastUsedAt first hs j b.key b.lastAccess

theorem InOrder.sublist {entries rest : List CacheEntry} (h : InOrder first hs entries)
    (hrest : rest.Sublist entries) : InOrder first hs rest :=
  ⟨fun e he => h.used e (hrest.subset he), h.order.sublist hrest⟩

theorem InOrder.concat (hrun : first.run hs = some w) {entries : List CacheEntry}
    (h : InOrder first hs entries)
    (hother : ∀ e ∈ entries, ∀ later, w.cache.use? (w.operation x) ≠ some (e.key, later)) :
    InOrder first (hs ++ [x]) entries := by
  constructor
  · intro e he
    obtain ⟨i, hi⟩ := h.used e he
    exact ⟨i, hi.concat hrun (hother e he)⟩
  · apply h.order.imp_of_mem
    rintro a b ha hb ⟨i, j, hij, hi, hj⟩
    exact ⟨i, j, hij, hi.concat hrun (hother a ha), hj.concat hrun (hother b hb)⟩

theorem InOrder.move (hrun : first.run hs = some w) (horderly : w.cache.Orderly)
    (h : InOrder first hs w.cache.entries) (hmove : Move w x next) :
    InOrder first (hs ++ [x]) next.cache.entries := by
  rw [hmove.cache]
  cases huse : w.cache.use? (w.operation x) with
  | none =>
    apply (h.sublist (apply_unused huse)).concat hrun
    simp [huse]
  | some use =>
    -- the entry that is used goes behind all others, and its use is behind all uses so far
    obtain ⟨key, time⟩ := use
    obtain ⟨front, e, hentries, hfront, rfl, rfl⟩ := apply_used horderly huse
    have hbefore := h.sublist (hfront.trans List.filter_sublist)
    have hother : ∀ a ∈ front, ∀ later, w.cache.use? (w.operation x) ≠ some (a.key, later) := by
      intro a ha later hsame
      have hkey := congrArg Prod.fst (Option.some.inj (huse.symm.trans hsame))
      exact find?_none.mp (drop_find? w.cache e.key) a (hfront.subset ha) hkey.symm
    have hafter := hbefore.concat hrun hother
    have hlast := lastUsedAt_last hrun huse
    rw [hentries]
    constructor
    · intro a ha
      rcases List.mem_append.mp ha with hold | hnew
      · exact hafter.used a hold
      · obtain rfl := List.mem_singleton.mp hnew
        exact ⟨hs.length, hlast⟩
    · apply List.pairwise_append.mpr
      refine ⟨hafter.order, List.pairwise_singleton .., ?_⟩
      intro a ha b hb
      obtain rfl := List.mem_singleton.mp hb
      obtain ⟨i, hi⟩ := hbefore.used a ha
      exact ⟨i, hs.length, hi.1.lt, hi.concat hrun (hother a ha), hlast⟩

theorem run_inOrder (hrun : (startAt limits time).run hs = some w) :
    InOrder (startAt limits time) hs w.cache.entries := by
  refine run_induction (P := fun hs w => InOrder (startAt limits time) hs w.cache.entries) ?_ ?_
    hrun
  · exact ⟨fun _ he => absurd he List.not_mem_nil, List.Pairwise.nil⟩
  · intro hs w x next hrun h hmove
    exact h.move hrun (run_orderly hrun).1 hmove

/-- A call begins, and a computation ends, only while every other caller rests. -/
def TakeTurns (first : Callers) (hs : List Happening) : Prop :=
  ∀ i x w who, Occurs first hs i x w → x.begins? = some who →
    ∀ other, other ≠ who → (w.phase other).rests = true

theorem TakeTurns.before (h : TakeTurns first (hs ++ [x])) : TakeTurns first hs :=
  fun i y v who hoccurs => h i y v who hoccurs.concat

theorem takeTurns_alone (h : ∀ x ∈ hs, ∀ other, x.who? = some other → other = who) :
    TakeTurns (startAt limits time) hs := by
  intro i x w c hoccurs hbegins other hother
  have hc : c = who := by
    apply h x (List.mem_of_getElem? hoccurs.1)
    cases x <;> simp_all [Happening.begins?, Happening.who?]
  have hidle : w.phase other = .idle := by
    apply run_others hoccurs.2
    intro y hy hwho
    exact hother ((h y (List.mem_of_mem_take hy) other hwho).trans hc.symm)
  rw [hidle]
  rfl

theorem step_rests (h : Move w (.step who) next) : (w.phase who).rests = false := by
  cases h with
  | timeToPeek hphase | peek hphase | timeToLook hphase | find hphase | miss hphase | join hphase
  | take hphase | timeToCheck hphase | findAgain hphase | missAgain hphase | register hphase
  | start hphase | timeToStore hphase | store hphase | abandon hphase | withdrawStored hphase
  | withdrawFailed hphase | publish hphase | learn hphase =>
    rw [hphase]
    rfl

theorem Move.wakes (h : Move w x next) (hc : (next.phase c).rests = false) :
    (w.phase c).rests = false ∨ x.begins? = some c := by
  by_cases hx : x.who? = some c
  · cases x with
    | step who =>
      cases hx
      exact .inl (step_rests h)
    | get | ask | result => exact .inr hx
    | tick | contains | invalidate | invalidateAll => cases hx
  · rw [h.others hx] at hc
    exact .inl hc

theorem Move.reads (h : Move w x next) (hread : (next.phase c).reading? = some now) :
    x.who? ≠ some c ∧ (w.phase c).reading? = some now ∨
      now = w.now ∧ next.now = w.now ∧ next.cache = w.cache := by
  by_cases hx : x.who? = some c
  · right
    cases h with
    | tick | contains | invalidate | invalidateAll => cases hx
    | timeToPeek | timeToLook | timeToCheck | timeToStore =>
      cases hx
      rw [turn_phase_self] at hread
      cases hread
      exact ⟨rfl, rfl, rfl⟩
    | get | ask | peek | find | miss | join | take | findAgain | missAgain | register | start
    | succeed | fail | store | abandon | withdrawStored | withdrawFailed | publish | learn =>
      cases hx
      simp only [turnWith, turn_phase_self] at hread
      cases hread
  · rw [h.others hx] at hread
    exact .inl ⟨hx, hread⟩

theorem use_read (h : w.cache.use? (w.operation x) = some (key, now)) :
    ∃ who, x = .step who ∧ (w.phase who).reading? = some now := by
  cases x with
  | step who =>
    refine ⟨who, rfl, ?_⟩
    have hnow := use?_time h
    rw [operation] at hnow
    split at hnow
    case h_1 hphase | h_2 hphase | h_3 hphase | h_5 hphase =>
      rw [hphase]
      exact hnow
    all_goals cases hnow
  | tick | get | ask | result | contains | invalidate | invalidateAll => cases h

/-- The times in the table are in order, and none of them is after a time that a caller has read. At
most one caller does not rest. -/
structure InTime (w : Callers) : Prop where
  single : ∀ c d, (w.phase c).rests = false → (w.phase d).rests = false → c = d
  ordered : w.cache.entries.Pairwise fun a b => a.lastAccess.NotAfter b.lastAccess
  past : ∀ e ∈ w.cache.entries, e.lastAccess.NotAfter w.now
  read : ∀ c now, (w.phase c).reading? = some now →
    now.NotAfter w.now ∧ ∀ e ∈ w.cache.entries, e.lastAccess.NotAfter now

theorem reading_rests {phase : Phase} (h : phase.reading? = some now) : phase.rests = false := by
  cases phase <;> first | rfl | cases h

theorem Move.clock (h : Move w x next) : w.now.NotAfter next.now := by
  cases h with
  | tick hclock => exact .inr hclock
  | contains | invalidate | invalidateAll | get | ask | timeToPeek | peek | timeToLook | find | miss
  | join | take | timeToCheck | findAgain | missAgain | register | start | succeed | fail
  | timeToStore | store | abandon | withdrawStored | withdrawFailed | publish | learn =>
    exact .inl rfl

theorem InTime.single_move (h : InTime w) (hmove : Move w x next)
    (hturn : ∀ who, x.begins? = some who → ∀ other, other ≠ who → (w.phase other).rests = true)
    (c d : Caller) (hc : (next.phase c).rests = false) (hd : (next.phase d).rests = false) :
    c = d := by
  by_contra hne
  rcases hmove.wakes hc with hc' | hc'
  · rcases hmove.wakes hd with hd' | hd'
    · exact hne (h.single c d hc' hd')
    · rw [hturn d hd' c hne] at hc'
      cases hc'
  · rcases hmove.wakes hd with hd' | hd'
    · rw [hturn c hc' d (Ne.symm hne)] at hd'
      cases hd'
    · exact hne (Option.some.inj (hc'.symm.trans hd'))

theorem InTime.move (horderly : w.cache.Orderly) (h : InTime w) (hmove : Move w x next)
    (hturn : ∀ who, x.begins? = some who → ∀ other, other ≠ who → (w.phase other).rests = true) :
    InTime next := by
  have hsingle := h.single_move hmove hturn
  cases huse : w.cache.use? (w.operation x) with
  | none =>
    have hsub : next.cache.entries.Sublist w.cache.entries := hmove.cache ▸ apply_unused huse
    refine ⟨hsingle, h.ordered.sublist hsub, ?_, ?_⟩
    · intro e he
      exact (h.past e (hsub.subset he)).trans hmove.clock
    · intro c now hread
      rcases hmove.reads hread with ⟨-, hold⟩ | ⟨rfl, hnow, hcache⟩
      · obtain ⟨hclock, hentries⟩ := h.read c now hold
        exact ⟨hclock.trans hmove.clock, fun e he => hentries e (hsub.subset he)⟩
      · rw [hnow, hcache]
        exact ⟨.inl rfl, h.past⟩
  | some use =>
    obtain ⟨key, time⟩ := use
    obtain ⟨who, rfl, hreading⟩ := use_read huse
    obtain ⟨front, e, hentries, hfront, -, rfl⟩ := apply_used horderly huse
    obtain ⟨hclock, hpast⟩ := h.read who _ hreading
    rw [← hmove.cache] at hentries
    have hsub := hfront.trans List.filter_sublist
    have hlast : ∀ a ∈ next.cache.entries, a.lastAccess.NotAfter e.lastAccess := by
      rw [hentries]
      intro a ha
      rcases List.mem_append.mp ha with hold | hnew
      · exact hpast a (hsub.subset hold)
      · obtain rfl := List.mem_singleton.mp hnew
        exact .inl rfl
    refine ⟨hsingle, ?_, ?_, ?_⟩
    · rw [hentries]
      apply List.pairwise_append.mpr
      refine ⟨h.ordered.sublist hsub, List.pairwise_singleton .., ?_⟩
      intro a ha b hb
      obtain rfl := List.mem_singleton.mp hb
      exact hpast a (hsub.subset ha)
    · intro a ha
      exact ((hlast a ha).trans hclock).trans hmove.clock
    · intro c now hread
      rcases hmove.reads hread with ⟨hother, hold⟩ | ⟨rfl, hnow, hcache⟩
      · -- nobody else has read a time, because the user of the entry does not rest
        have hc := h.single c who (reading_rests hold) (reading_rests hreading)
        exact absurd (congrArg some hc.symm) hother
      · rw [hnow, hcache]
        exact ⟨.inl rfl, h.past⟩

theorem run_inTime (hrun : (startAt limits time).run hs = some w)
    (hturns : TakeTurns (startAt limits time) hs) : InTime w := by
  refine run_induction (P := fun hs w => TakeTurns (startAt limits time) hs → InTime w) ?_ ?_ hrun
    hturns
  · intro _
    refine ⟨?_, List.Pairwise.nil, fun _ he => absurd he List.not_mem_nil, ?_⟩
    · intro c d hc
      cases hc
    · intro c now hread
      cases hread
  · intro hs w x next hrun ih hmove hturns
    exact (ih hturns.before).move (run_orderly hrun).1 hmove
      fun who hbegins => hturns hs.length x w who (occurs_last hrun) hbegins

structure Replaces (w : Callers) (leader : Caller) (key : CacheKey) (lines : List DiffLine)
    (size : Nat) (now : Seconds) (evicted : List CacheEntry) (next : Callers) : Prop where
  step : w.after (.step leader) = some next
  sized : estimateSize lines = .ok size
  /-- Of the entries within their lifetime the evicted ones are a front. The others stay as they
  are, and behind them comes the new entry. -/
  entries : ∃ kept, (w.cache.entries.filter fun e => !w.cache.isExpired now e) = evicted ++ kept ∧
    next.cache.entries = kept ++ [⟨key, lines, size, now, now⟩]
  room : totalSize next.cache.entries ≤ w.cache.limits.maxSize
  /-- No shorter front makes room. -/
  shortest : ∀ m, m < evicted.length → w.cache.limits.maxSize <
    totalSize ((w.cache.entries.filter fun e => !w.cache.isExpired now e).drop m ++
      [⟨key, lines, size, now, now⟩])
  expirations : next.cache.expirations =
    w.cache.expirations + (w.cache.entries.filter (w.cache.isExpired now)).length
  evictions : next.cache.evictions = w.cache.evictions + evicted.length
  size : next.cache.size = totalSize next.cache.entries

/-- How the table of entries stands at a moment of a run, and what the next store does to it. -/
structure LeastRecentlyUsed (first : Callers) (hs : List Happening) (w : Callers) : Prop where
  uses : InOrder first hs w.cache.entries
  times : w.cache.entries.Pairwise fun a b => a.lastAccess.NotAfter b.lastAccess
  stores : ∀ leader key flight started lines now evicted,
    w.phase leader = .storing key flight started lines now →
    (w.cache.store key lines started now).1 = .stored evicted →
    ∃ size next, Replaces w leader key lines size now evicted next

theorem store_replaces (hrun : (startAt limits time).run hs = some w) {leader : Caller}
    {flight : Flight} {started : Generation} {lines : List DiffLine} {evicted : List CacheEntry}
    (hphase : w.phase leader = .storing key flight started lines now)
    (hevicted : (w.cache.store key lines started now).1 = .stored evicted) :
    ∃ size next, Replaces w leader key lines size now evicted next := by
  obtain ⟨horderly, -, -⟩ := run_orderly hrun
  have habsent : w.cache.find? key = none :=
    (run_consistent hrun).bare leader key (by rw [hphase]; rfl)
  rcases store_cases w.cache key lines started now with
    ⟨-, hnot⟩ | ⟨size, hsize, hstarted, hfits, -⟩
  · exact absurd hevicted (hnot evicted)
  · obtain ⟨out, kept, hsplit, hout, hentries, hroom, hshortest⟩ :=
      store_room horderly hsize hstarted hfits now
    obtain ⟨hexpirations, hevictions⟩ := store_counts hsize hstarted hfits hevicted
    obtain rfl := Storing.stored.inj (hout.symm.trans hevicted)
    rw [living, drop_absent habsent] at hsplit hshortest
    rw [drop_absent habsent] at hexpirations
    have hnext := horderly.apply (.store key lines started now)
    exact ⟨size, _, (Move.store hphase hsize).after, hsize, ⟨kept, hsplit, hentries⟩,
      Int.le_trans (Int.le_of_eq (congrArg totalSize hentries)) hroom, hshortest, hexpirations,
      hevictions, hnext.total⟩

/-- Where callers take turns, the table is in the order of the latest uses, the least recent first,
by their moments and by their times. A store drops what is past its lifetime, then the shortest
front that makes room, and nothing else. -/
theorem run_leastRecentlyUsed (hrun : (startAt limits time).run hs = some w)
    (hturns : TakeTurns (startAt limits time) hs) :
    LeastRecentlyUsed (startAt limits time) hs w where
  uses := run_inOrder hrun
  times := (run_inTime hrun hturns).ordered
  stores _ _ _ _ _ _ _ := store_replaces hrun

set_option maxRecDepth 4000 in
/-- There is room for two results of three, and the first one was looked up meanwhile. -/
theorem run_leastRecentlyUsed_evicts :
    let key (id : String) : CacheKey :=
      ⟨"repository", ⟨"file", by decide⟩, "old", id, .complete, none⟩
    let lines (text : String) : List DiffLine := [.added text 1]
    let compute (id text : String) : List Happening :=
      [.ask 0 (key id), .step 0, .step 0, .step 0, .step 0, .step 0, .step 0, .step 0,
        .result 0 (.ok (lines text)), .step 0]
    let hs : List Happening := compute "a" "first" ++
      [.step 0, .step 0, .step 0, .tick (.whole 6)] ++ compute "b" "second" ++
      [.step 0, .step 0, .step 0, .tick (.whole 7), .get 0 (key "a"), .step 0, .step 0,
        .tick (.whole 9)] ++ compute "c" "third"
    let first := startAt ⟨150, .whole 60, by decide, by decide⟩ (.whole 5)
    let evicted : List CacheEntry := [⟨key "b", lines "second", 70, .whole 6, .whole 6⟩]
    ∃ w size next, first.run hs = some w ∧ LeastRecentlyUsed first hs w ∧
      Replaces w 0 (key "c") (lines "third") size (.whole 9) evicted next := by
  intro key lines compute hs first evicted
  have halone : ∀ x ∈ hs, ∀ other, x.who? = some other → other = 0 := by
    have hall : hs.all (fun x => x.who?.all fun other => other = 0) = true := rfl
    intro x hx other hother
    have hsame := List.all_eq_true.mp hall x hx
    simpa [hother] using hsame
  have hreached : (first.run hs).map (fun w => (w.phase 0,
      (w.cache.store (key "c") (lines "third") ⟨0, 0⟩ (.whole 9)).1)) =
        some (.storing (key "c") 2 ⟨0, 0⟩ (lines "third") (.whole 9), .stored evicted) := rfl
  obtain ⟨w, hw, hstands⟩ := Option.map_eq_some_iff.mp hreached
  obtain ⟨hphase, hevicted⟩ := Prod.mk.inj hstands
  have hused := run_leastRecentlyUsed hw (takeTurns_alone halone)
  obtain ⟨size, next, hnext⟩ := hused.stores _ _ _ _ _ _ _ hphase hevicted
  exact ⟨w, size, next, hw, hused, hnext⟩

end Callers

end ReviewDiff
