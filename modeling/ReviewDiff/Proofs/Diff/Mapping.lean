import Mathlib.Data.List.Nodup
import ReviewDiff.Diff.Mapping
import ReviewDiff.Proofs.Diff.Hunks

/-!
# Line numbers carried from one file to the other

The complete output recounts both files: every line of either one comes once, in order and under
its number. So the mapping read off it knows each old line exactly once, as an unchanged one or as
a removed one, and what it answers for the old lines never goes back. A removed line is answered
with the line that comes next in the new file, and at the end of the file with the last one.
-/

set_option autoImplicit false

namespace ReviewDiff

open Segment

/-- The lines recount what is left of two files behind `i` lines of the old one and `j` lines of
the new one. -/
inductive Recounts : (i j : Nat) → (old new : List Points) → List DiffLine → Prop
  | nil (i j : Nat) : Recounts i j [] [] []
  | context {i j : Nat} {old new : List Points} {lines : List DiffLine} (text : Points)
      (hrest : Recounts (i + 1) (j + 1) old new lines) :
      Recounts i j (text :: old) (text :: new)
        (.context text (i + 1 : Nat) (j + 1 : Nat) :: lines)
  | removed {i j : Nat} {old new : List Points} {lines : List DiffLine} (text : Points)
      (hrest : Recounts (i + 1) j old new lines) :
      Recounts i j (text :: old) new (.removed text (i + 1 : Nat) :: lines)
  | added {i j : Nat} {old new : List Points} {lines : List DiffLine} (text : Points)
      (hrest : Recounts i (j + 1) old new lines) :
      Recounts i j old (text :: new) (.added text (j + 1 : Nat) :: lines)

namespace Recounts

variable {i j : Nat} {old new : List Points} {lines : List DiffLine}

theorem contexts (texts : List Points)
    (h : Recounts (i + texts.length) (j + texts.length) old new lines) :
    Recounts i j (texts ++ old) (texts ++ new) (contexts i j texts ++ lines) := by
  induction texts generalizing i j with
  | nil => exact h
  | cons text texts ih =>
    have hrest : Recounts (i + 1) (j + 1) (texts ++ old) (texts ++ new)
        (ReviewDiff.contexts (i + 1) (j + 1) texts ++ lines) :=
      ih (by simpa [Nat.add_right_comm, Nat.add_assoc] using h)
    rw [← List.singleton_append, contexts_append]
    exact .context text hrest

theorem removals (texts : List Points) (h : Recounts (i + texts.length) j old new lines) :
    Recounts i j (texts ++ old) new (removals i texts ++ lines) := by
  induction texts generalizing i with
  | nil => exact h
  | cons text texts ih =>
    have hrest := ih (i := i + 1) (by simpa [Nat.add_right_comm, Nat.add_assoc] using h)
    have hlines : ReviewDiff.removals i (text :: texts) =
        .removed text (i + 1 : Nat) :: ReviewDiff.removals (i + 1) texts := by
      simp only [ReviewDiff.removals, List.mapIdx_cons, Nat.add_assoc, Nat.add_comm 1]
    rw [hlines]
    exact .removed text hrest

theorem additions (texts : List Points) (h : Recounts i (j + texts.length) old new lines) :
    Recounts i j old (texts ++ new) (additions j texts ++ lines) := by
  induction texts generalizing j with
  | nil => exact h
  | cons text texts ih =>
    have hrest := ih (j := j + 1) (by simpa [Nat.add_right_comm, Nat.add_assoc] using h)
    have hlines : ReviewDiff.additions j (text :: texts) =
        .added text (j + 1 : Nat) :: ReviewDiff.additions (j + 1) texts := by
      simp only [ReviewDiff.additions, List.mapIdx_cons, Nat.add_assoc, Nat.add_comm 1]
    rw [hlines]
    exact .added text hrest

theorem output (i j : Nat) (segments : List (Segment Points)) :
    Recounts i j (olds segments) (news segments) (output i j segments) := by
  induction segments generalizing i j with
  | nil => exact .nil i j
  | cons segment rest ih =>
    have hrest := ih (i + segment.old.length) (j + segment.new.length)
    rw [Segment.output, walk, ← Segment.output, olds_cons, news_cons]
    cases segment with
    | kept texts => exact contexts texts hrest
    | changed gone come =>
      rw [Segment.lines, List.append_assoc]
      exact removals gone (additions come hrest)

end Recounts

namespace LineMapping

def pairs : List DiffLine → List (Int × Int)
  | [] => []
  | .context _ old new :: rest => (old, new) :: pairs rest
  | .added .. :: rest | .removed .. :: rest | .header _ :: rest => pairs rest

/-- The new number of the next line that is not a removed one, or of the last one before. -/
def next (last : Option Int) (lines : List DiffLine) : Option Int :=
  match lines.find? fun line => line.kind ≠ .removed with
  | some line => line.newNumber?
  | none => last

def anchors (last : Option Int) : List DiffLine → List (Int × Option Int)
  | [] => []
  | .removed _ old :: rest => (old, next last rest) :: anchors last rest
  | .context _ _ new :: rest | .added _ new :: rest => anchors (some new) rest
  | .header _ :: rest => anchors last rest

def answers (last : Option Int) : List DiffLine → List (Int × Option Int)
  | [] => []
  | .context _ old new :: rest => (old, some new) :: answers (some new) rest
  | .removed _ old :: rest => (old, next last rest) :: answers last rest
  | .added _ new :: rest => answers (some new) rest
  | .header _ :: rest => answers last rest

@[simp] theorem next_nil (last : Option Int) : next last [] = last := rfl

@[simp] theorem next_context (last : Option Int) (text : Points) (old new : Int)
    (rest : List DiffLine) : next last (.context text old new :: rest) = some new := rfl

@[simp] theorem next_added (last : Option Int) (text : Points) (new : Int)
    (rest : List DiffLine) : next last (.added text new :: rest) = some new := rfl

@[simp] theorem next_removed (last : Option Int) (text : Points) (old : Int)
    (rest : List DiffLine) : next last (.removed text old :: rest) = next last rest := rfl

theorem foldl_put {anchored : Assoc Int (Option Int)} {removed : List Int} (new : Option Int)
    (h : (anchored.keys ++ removed).Nodup) :
    removed.foldl (fun anchors old => anchors.put old new) anchored =
      anchored ++ removed.map (·, new) := by
  induction removed generalizing anchored with
  | nil => simp
  | cons old rest ih =>
    have habsent : old ∉ anchored.keys := by
      intro hmem
      exact (List.nodup_append.mp h).2.2 old hmem old List.mem_cons_self rfl
    rw [List.foldl_cons, Assoc.put_absent new habsent, ih (by simpa [Assoc.keys] using h)]
    simp

/-- The old and the new numbers that a mapping and the pending lines have so far: at most `i` and
`j`, and none of the removed ones twice. -/
structure Behind (i j : Nat) (mapping : LineMapping) (pending : List Int) : Prop where
  old : ∀ k ∈ mapping.oldToNew.keys, k ≤ i
  new : ∀ k ∈ mapping.newToOld.keys, k ≤ j
  removed : ∀ k ∈ mapping.removedAnchor.keys ++ pending, k ≤ i
  apart : (mapping.removedAnchor.keys ++ pending).Nodup

theorem empty_behind : Behind 0 0 empty [] := by
  constructor <;> simp [empty, Assoc.keys]

variable {i j : Nat} {mapping : LineMapping} {pending : List Int}

theorem Behind.mono (h : Behind i j mapping pending) {i' j' : Nat} (hi : i ≤ i') (hj : j ≤ j') :
    Behind i' j' mapping pending where
  old k hk := by
    have := h.old k hk
    omega
  new k hk := by
    have := h.new k hk
    omega
  removed k hk := by
    have := h.removed k hk
    omega
  apart := h.apart

theorem Behind.pend (h : Behind i j mapping pending) :
    Behind (i + 1) j mapping (pending ++ [((i + 1 : Nat) : Int)]) where
  old := (h.mono (Nat.le_succ i) (Nat.le_refl j)).old
  new := h.new
  removed k hk := by
    rw [← List.append_assoc, List.mem_append, List.mem_singleton] at hk
    obtain hk | rfl := hk
    · have := h.removed k hk
      omega
    · exact Int.le_refl _
  apart := by
    rw [← List.append_assoc, List.nodup_append]
    refine ⟨h.apart, by simp, ?_⟩
    intro k hk k' hk' heq
    have := h.removed k hk
    rw [List.mem_singleton] at hk'
    omega

theorem anchor_eq (h : Behind i j mapping pending) (new : Option Int) :
    mapping.anchor pending new =
      ⟨mapping.oldToNew, mapping.newToOld, mapping.removedAnchor ++ pending.map (·, new)⟩ := by
  rw [anchor, foldl_put new h.apart]

theorem Behind.anchor (h : Behind i j mapping pending) (new : Option Int) :
    Behind i j (mapping.anchor pending new) [] := by
  rw [anchor_eq h]
  have hkeys : Assoc.keys (mapping.removedAnchor ++ pending.map (·, new)) =
      mapping.removedAnchor.keys ++ pending := by
    simp [Assoc.keys, Function.comp_def]
  refine ⟨h.old, h.new, ?_, ?_⟩
  · rw [hkeys, List.append_nil]
    exact h.removed
  · rw [hkeys, List.append_nil]
    exact h.apart

theorem keep_eq (h : Behind i j mapping []) {old new : Int} (hold : i < old) (hnew : j < new) :
    mapping.keep old new =
      ⟨mapping.oldToNew ++ [(old, new)], mapping.newToOld ++ [(new, old)],
        mapping.removedAnchor⟩ := by
  have hold : old ∉ mapping.oldToNew.keys := fun hmem => absurd (h.old old hmem) (by omega)
  have hnew : new ∉ mapping.newToOld.keys := fun hmem => absurd (h.new new hmem) (by omega)
  rw [keep, Assoc.put_absent _ hold, Assoc.put_absent _ hnew]

theorem Behind.keep (h : Behind i j mapping []) :
    Behind (i + 1) (j + 1) (mapping.keep (i + 1 : Nat) (j + 1 : Nat)) [] := by
  have hlater := h.mono (Nat.le_succ i) (Nat.le_succ j)
  rw [keep_eq h (by omega) (by omega)]
  refine ⟨?_, ?_, hlater.removed, hlater.apart⟩
  · intro k hk
    rw [Assoc.keys, List.map_append, List.mem_append, List.map_singleton, List.mem_singleton] at hk
    obtain hk | rfl := hk
    · exact hlater.old k hk
    · exact Int.le_refl _
  · intro k hk
    rw [Assoc.keys, List.map_append, List.mem_append, List.map_singleton, List.mem_singleton] at hk
    obtain hk | rfl := hk
    · exact hlater.new k hk
    · exact Int.le_refl _

variable {old new : List Points} {lines : List DiffLine}

theorem extend_eq (h : Recounts i j old new lines) (hbehind : Behind i j mapping pending)
    (last : Option Int) :
    mapping.extend pending last lines =
      ⟨mapping.oldToNew ++ pairs lines, mapping.newToOld ++ (pairs lines).map Prod.swap,
        mapping.removedAnchor ++ (pending.map (·, next last lines) ++ anchors last lines)⟩ := by
  induction h generalizing mapping pending last with
  | nil i j => simp [extend, anchor_eq hbehind, pairs, anchors]
  | removed text hrest ih =>
    rw [extend, ih hbehind.pend last]
    simp [pairs, anchors]
  | @context i j old new lines text hrest ih =>
    have hanchored := hbehind.anchor (some ((j+1 : Nat) : Int))
    rw [extend, ih hanchored.keep, keep_eq hanchored (by omega) (by omega),
      anchor_eq hbehind]
    simp [pairs, anchors]
  | @added i j old new lines text hrest ih =>
    have hanchored := hbehind.anchor (some ((j+1 : Nat) : Int))
    rw [extend, ih (hanchored.mono (Nat.le_refl i) (Nat.le_succ j)), anchor_eq hbehind]
    simp [pairs, anchors]

theorem ofLines_eq (h : Recounts 0 0 old new lines) :
    ofLines lines = ⟨pairs lines, (pairs lines).map Prod.swap, anchors none lines⟩ := by
  rw [ofLines, extend_eq h empty_behind]
  simp [empty]

theorem pairwise_at {β : Type} {R : Int × β → Int × β → Prop} {l : List (Int × β)}
    (h : l.Pairwise fun p q => p.1 < q.1 ∧ R p q) {p q : Int × β} (hp : p ∈ l) (hq : q ∈ l)
    (hlt : p.1 < q.1) : R p q := by
  induction l with
  | nil => cases hp
  | cons x rest ih =>
    obtain ⟨hx, hrest⟩ := List.pairwise_cons.mp h
    rcases List.mem_cons.mp hp with rfl | hp'
    · rcases List.mem_cons.mp hq with rfl | hq'
      · omega
      · exact (hx q hq').2
    · rcases List.mem_cons.mp hq with rfl | hq'
      · have := (hx p hp').1
        omega
      · exact ih hrest hp' hq'

theorem pairs_text (h : Recounts i j old new lines) {p : Int × Int} (hp : p ∈ pairs lines) :
    ∃ s t : Nat, p.1 = i + s + 1 ∧ p.2 = j + t + 1 ∧
      ∃ text, old[s]? = some text ∧ new[t]? = some text := by
  induction h with
  | nil => cases hp
  | context text hrest ih =>
    rw [pairs, List.mem_cons] at hp
    obtain rfl | hp := hp
    · exact ⟨0, 0, by simp, by simp, text, rfl, rfl⟩
    · obtain ⟨s, t, hs, ht, htext⟩ := ih hp
      exact ⟨s + 1, t + 1, by omega, by omega, htext⟩
  | removed text hrest ih =>
    obtain ⟨s, t, hs, ht, htext⟩ := ih hp
    exact ⟨s + 1, t, by omega, by omega, htext⟩
  | added text hrest ih =>
    obtain ⟨s, t, hs, ht, htext⟩ := ih hp
    exact ⟨s, t + 1, by omega, by omega, htext⟩

theorem pairs_increase (h : Recounts i j old new lines) :
    (pairs lines).Pairwise fun p q => p.1 < q.1 ∧ p.2 < q.2 := by
  induction h with
  | nil => exact .nil
  | context text hrest ih =>
    refine List.pairwise_cons.mpr ⟨?_, ih⟩
    intro p hp
    obtain ⟨s, t, hs, ht, -⟩ := pairs_text hrest hp
    constructor <;> dsimp only <;> omega
  | removed text hrest ih => exact ih
  | added text hrest ih => exact ih

def lastNumber (count : Nat) : Option Int := if count = 0 then none else some count

theorem answers_perm (last : Option Int) (lines : List DiffLine) :
    (answers last lines).Perm
      ((pairs lines).map (fun p => (p.1, some p.2)) ++ anchors last lines) := by
  induction lines generalizing last with
  | nil => exact .nil
  | cons line rest ih =>
    cases line with
    | context text a b => exact (ih (some b)).cons _
    | added text b => exact ih (some b)
    | removed text a => exact ((ih last).cons _).trans List.perm_middle.symm
    | header text => exact ih last

theorem answers_keys (h : Recounts i j old new lines) (last : Option Int) :
    (answers last lines).map (·.1) =
      (List.range' (i + 1) old.length).map fun n : Nat => (n : Int) := by
  induction h generalizing last with
  | nil => rfl
  | context text hrest ih => simp [answers, ih, List.range'_succ]
  | removed text hrest ih => simp [answers, ih, List.range'_succ]
  | added text hrest ih => exact ih _

theorem next_eq (h : Recounts i j old new lines) (last : Option Int) :
    next last lines = if new = [] then last else some ((j + 1 : Nat) : Int) := by
  induction h with
  | nil => rfl
  | context text hrest ih => rfl
  | removed text hrest ih => exact ih
  | added text hrest ih => rfl

/-- The next new line is the one behind the `j` lines so far, or the last one if that does not
exist. -/
theorem next_lastNumber (h : Recounts i j old new lines) :
    next (lastNumber j) lines = lastNumber (min (j + 1) (j + new.length)) := by
  rw [next_eq h]
  cases new with
  | nil => simp
  | cons text rest => simp [lastNumber]

theorem answers_bounds (h : Recounts i j old new lines) :
    ∀ p ∈ answers (lastNumber j) lines, ∃ b, p.2 = lastNumber b ∧
      min (j + 1) (j + new.length) ≤ b ∧ b ≤ j + new.length := by
  induction h with
  | nil => simp [answers]
  | @context i j old new lines text hrest ih =>
    intro p hp
    rw [answers, List.mem_cons] at hp
    rw [List.length_cons]
    obtain rfl | hp := hp
    · exact ⟨j + 1, rfl, by omega, by omega⟩
    · obtain ⟨b, hb, hle, hge⟩ := ih p hp
      exact ⟨b, hb, by omega, by omega⟩
  | @removed i j old new lines text hrest ih =>
    intro p hp
    rw [answers, List.mem_cons] at hp
    obtain rfl | hp := hp
    · exact ⟨_, next_lastNumber hrest, Nat.le_refl _, by omega⟩
    · exact ih p hp
  | @added i j old new lines text hrest ih =>
    intro p hp
    obtain ⟨b, hb, hle, hge⟩ := ih p hp
    rw [List.length_cons]
    exact ⟨b, hb, by omega, by omega⟩

theorem answers_increase (h : Recounts i j old new lines) :
    (answers (lastNumber j) lines).Pairwise fun p q =>
      ∃ b c : Nat, b ≤ c ∧ p.2 = lastNumber b ∧ q.2 = lastNumber c := by
  induction h with
  | nil => exact .nil
  | @context i j old new lines text hrest ih =>
    refine List.pairwise_cons.mpr ⟨?_, ih⟩
    intro q hq
    obtain ⟨c, hc, hle, hge⟩ := answers_bounds hrest q hq
    exact ⟨j + 1, c, by omega, rfl, hc⟩
  | @removed i j old new lines text hrest ih =>
    refine List.pairwise_cons.mpr ⟨?_, ih⟩
    intro q hq
    obtain ⟨c, hc, hle, hge⟩ := answers_bounds hrest q hq
    exact ⟨_, c, hle, next_lastNumber hrest, hc⟩
  | @added i j old new lines text hrest ih => exact ih

theorem answers_removed (h : Recounts i j old new lines) {front rest : List DiffLine}
    {text : Points} {a : Int} (hlines : lines = front ++ .removed text a :: rest) :
    (a, next (lastNumber (j + new.length)) rest) ∈ answers (lastNumber j) lines := by
  induction h generalizing front with
  | nil => simp at hlines
  | @context i j old new lines text' hrest ih =>
    cases front with
    | nil => cases hlines
    | cons line front =>
      obtain ⟨rfl, rfl⟩ := List.cons.inj hlines
      have hlater := ih rfl
      rw [List.length_cons, ← Nat.add_assoc, Nat.add_right_comm]
      exact List.mem_cons_of_mem _ hlater
  | @removed i j old new lines text' hrest ih =>
    cases front with
    | nil =>
      cases hlines
      have hnext : next (lastNumber (j + new.length)) rest = next (lastNumber j) rest := by
        rw [next_eq hrest, next_eq hrest]
        cases new <;> simp
      rw [hnext]
      exact List.mem_cons_self
    | cons line front =>
      obtain ⟨rfl, rfl⟩ := List.cons.inj hlines
      exact List.mem_cons_of_mem _ (ih rfl)
  | @added i j old new lines text' hrest ih =>
    cases front with
    | nil => cases hlines
    | cons line front =>
      obtain ⟨rfl, rfl⟩ := List.cons.inj hlines
      have hlater := ih rfl
      rw [List.length_cons, ← Nat.add_assoc, Nat.add_right_comm]
      exact hlater

theorem range_nodup (i count : Nat) :
    ((List.range' i count).map fun n : Nat => (n : Int)).Nodup :=
  (List.nodup_range').map fun _ _ h => Int.ofNat.inj h

theorem pairs_nodup (h : Recounts i j old new lines) :
    ((pairs lines).map Prod.fst).Nodup ∧ ((pairs lines).map Prod.snd).Nodup := by
  constructor
  · rw [List.Nodup, List.pairwise_map]
    exact (pairs_increase h).imp fun hlt => by omega
  · rw [List.Nodup, List.pairwise_map]
    exact (pairs_increase h).imp fun hlt => by omega

theorem keys_perm (h : Recounts i j old new lines) (last : Option Int) :
    ((pairs lines).map (·.1) ++ (anchors last lines).map (·.1)).Perm
      ((List.range' (i + 1) old.length).map fun n : Nat => (n : Int)) := by
  rw [← answers_keys h last]
  have hperm := ((answers_perm last lines).map (·.1)).symm
  rwa [List.map_append, List.map_map] at hperm

theorem findNew_answer (h : Recounts 0 0 old new lines) {a : Int} {answer : Option Int}
    (hmem : (a, answer) ∈ answers none lines) : (ofLines lines).findNew a = answer := by
  have hkeys := (keys_perm h none).nodup_iff.mpr (range_nodup ..)
  obtain ⟨hpairs, hanchors, hapart⟩ := List.nodup_append.mp hkeys
  rw [ofLines_eq h, findNew]
  rcases List.mem_append.mp ((answers_perm none lines).mem_iff.mp hmem) with hpair | hanchor
  · obtain ⟨p, hp, ⟨⟩⟩ := List.mem_map.mp hpair
    rw [(Assoc.get?_eq_some_iff hpairs).mpr hp]
  · have hnone : Assoc.get? (pairs lines) a = none := by
      rw [Assoc.get?_eq_none_iff]
      intro hkey
      exact hapart a hkey a (List.mem_map_of_mem hanchor) rfl
    rw [hnone, (Assoc.get?_eq_some_iff hanchors).mpr hanchor]
    rfl

theorem findNew_outside (h : Recounts 0 0 old new lines) {a : Int}
    (ha : a < 1 ∨ old.length < a) : (ofLines lines).findNew a = none := by
  have habsent : a ∉ (pairs lines).map (·.1) ++ (anchors none lines).map (·.1) := by
    rw [(keys_perm h none).mem_iff]
    intro hmem
    obtain ⟨n, hn, rfl⟩ := List.mem_map.mp hmem
    have := List.mem_range'_1.mp hn
    omega
  rw [List.mem_append, not_or] at habsent
  have hpair : Assoc.get? (pairs lines) a = none := Assoc.get?_eq_none_iff.mpr habsent.1
  have hanchor : Assoc.get? (anchors none lines) a = none := Assoc.get?_eq_none_iff.mpr habsent.2
  rw [ofLines_eq h, findNew]
  simp only [hpair, hanchor, Option.join_none]

theorem answers_exist (h : Recounts 0 0 old new lines) {a : Int} (hpos : 1 ≤ a)
    (hle : a ≤ old.length) : ∃ answer, (a, answer) ∈ answers none lines := by
  have hmem : a ∈ (answers none lines).map (·.1) := by
    rw [answers_keys h none, List.mem_map]
    exact ⟨a.toNat, List.mem_range'_1.mpr (by omega), by omega⟩
  obtain ⟨p, hp, rfl⟩ := List.mem_map.mp hmem
  exact ⟨p.2, hp⟩

theorem findNew_number (h : Recounts 0 0 old new lines) {a : Int} (hpos : 1 ≤ a)
    (hle : a ≤ old.length) :
    ∃ b, (ofLines lines).findNew a = lastNumber b ∧ min 1 new.length ≤ b ∧ b ≤ new.length := by
  obtain ⟨answer, hmem⟩ := answers_exist h hpos hle
  obtain ⟨b, hb, hmin, hmax⟩ := answers_bounds h _ hmem
  exact ⟨b, (findNew_answer h hmem).trans hb, by omega, by omega⟩

theorem findNew_later (h : Recounts 0 0 old new lines) {a a' : Int} (hpos : 1 ≤ a)
    (hlt : a < a') (hle : a' ≤ old.length) :
    ∃ b c : Nat, b ≤ c ∧ (ofLines lines).findNew a = lastNumber b ∧
      (ofLines lines).findNew a' = lastNumber c := by
  obtain ⟨answer, hmem⟩ := answers_exist h hpos (by omega)
  obtain ⟨answer', hmem'⟩ := answers_exist h (by omega) hle
  have hkeys : ((answers none lines).map (·.1)).Pairwise (· < ·) := by
    rw [answers_keys h none, List.pairwise_map]
    exact (List.pairwise_lt_range' ..).imp fun hlt => by omega
  have hboth := (List.pairwise_map.mp hkeys).and (answers_increase h)
  obtain ⟨b, c, hbc, hb, hc⟩ := pairwise_at hboth hmem hmem' hlt
  exact ⟨b, c, hbc, (findNew_answer h hmem).trans hb, (findNew_answer h hmem').trans hc⟩

/-- A mapping carries the lines of an old file over to a new one, as the complete output of their
diff has them. -/
structure Carries (old new : List Points) (lines : List DiffLine) (m : LineMapping) : Prop where
  /-- Every old line is either unchanged or removed, and known once. -/
  keys : (m.oldToNew.keys ++ m.removedAnchor.keys).Perm
    ((List.range' 1 old.length).map fun n : Nat => (n : Int))
  increasing : ∀ a a' b b' : Int, m.oldToNew.get? a = some b → m.oldToNew.get? a' = some b' →
    a < a' → b < b'
  inverse : ∀ a b : Int, m.newToOld.get? b = some a ↔ m.oldToNew.get? a = some b
  sameText : ∀ a b : Int, m.oldToNew.get? a = some b → ∃ s t : Nat, a = s + 1 ∧ b = t + 1 ∧
    ∃ text, old[s]? = some text ∧ new[t]? = some text
  answered : ∀ a : Int, 1 ≤ a → a ≤ old.length → new ≠ [] →
    ∃ b, m.findNew a = some b ∧ 1 ≤ b ∧ b ≤ new.length
  monotone : ∀ a a' b b' : Int, 1 ≤ a → a ≤ a' → a' ≤ old.length → m.findNew a = some b →
    m.findNew a' = some b' → b ≤ b'
  unanswered : new = [] → ∀ a, m.findNew a = none
  /-- A removed line is answered with the first line behind it that was not removed, and with the
  last line of the new file if there is none. -/
  removed : ∀ front text a rest, lines = front ++ .removed text a :: rest →
    m.findNew a = match rest.find? fun line => line.kind ≠ .removed with
      | some line => line.newNumber?
      | none => if new.length = 0 then none else some (new.length : Int)
  outside : ∀ a : Int, a < 1 ∨ old.length < a → m.findNew a = none

theorem lastNumber_eq {count : Nat} {n : Int} (h : lastNumber count = some n) : n = count := by
  rw [lastNumber] at h
  split at h
  · cases h
  · exact (Option.some.inj h).symm

theorem ofLines_carries (h : Recounts 0 0 old new lines) :
    Carries old new lines (ofLines lines) where
  keys := by
    rw [ofLines_eq h]
    exact keys_perm h none
  increasing a a' b b' hb hb' hlt := by
    rw [ofLines_eq h] at hb hb'
    have hmem := (Assoc.get?_eq_some_iff (pairs_nodup h).1).mp hb
    have hmem' := (Assoc.get?_eq_some_iff (pairs_nodup h).1).mp hb'
    exact pairwise_at (pairs_increase h) hmem hmem' hlt
  inverse a b := by
    have hkeys : (Assoc.keys ((pairs lines).map Prod.swap)).Nodup := by
      rw [Assoc.keys, List.map_map]
      exact (pairs_nodup h).2
    rw [ofLines_eq h, Assoc.get?_eq_some_iff hkeys, Assoc.get?_eq_some_iff (pairs_nodup h).1]
    simp
  sameText a b hb := by
    rw [ofLines_eq h] at hb
    have hmem := (Assoc.get?_eq_some_iff (pairs_nodup h).1).mp hb
    obtain ⟨s, t, hs, ht, htext⟩ := pairs_text h hmem
    exact ⟨s, t, by simpa using hs, by simpa using ht, htext⟩
  answered a hpos hle hnew := by
    obtain ⟨b, hb, hmin, hmax⟩ := findNew_number h hpos hle
    have hsome := List.length_pos_iff.mpr hnew
    refine ⟨b, ?_, by omega, by omega⟩
    rw [hb, lastNumber, if_neg (by omega)]
  monotone a a' b b' hpos hle hle' hb hb' := by
    rcases Int.le_iff_eq_or_lt.mp hle with rfl | hlt
    · rw [hb] at hb'
      cases hb'
      exact Int.le_refl b
    · obtain ⟨m, n, hmn, hm, hn⟩ := findNew_later h hpos hlt hle'
      have hbm := lastNumber_eq (hm.symm.trans hb)
      have hbn := lastNumber_eq (hn.symm.trans hb')
      omega
  unanswered hnew a := by
    by_cases ha : 1 ≤ a ∧ a ≤ old.length
    · obtain ⟨b, hb, hmin, hmax⟩ := findNew_number h ha.1 ha.2
      have hzero : b = 0 := by simpa [hnew] using hmax
      rw [hb, hzero]
      rfl
    · exact findNew_outside h (by omega)
  removed front text a rest hlines := by
    have hmem := answers_removed h hlines
    rw [Nat.zero_add] at hmem
    exact findNew_answer h hmem
  outside a ha := findNew_outside h ha

end LineMapping

/-- The mapping of the complete diff of two files carries the lines of the old one to the new
one. -/
theorem mapping_carries (old new : List Points) :
    ∃ lines, editScript? old new = some (editScript old new) ∧
      completeLines old new (editScript old new) = .ok lines ∧
      (LineMapping.ofLines lines).Carries old new lines := by
  obtain ⟨turn, segments, -, rfl, rfl, hscript, hcomplete, -⟩ := editScript_outputs old new
  exact ⟨_, hscript, hcomplete, LineMapping.ofLines_carries (Recounts.output 0 0 segments)⟩

end ReviewDiff
