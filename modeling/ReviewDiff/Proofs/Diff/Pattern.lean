import Mathlib.Data.Set.Function
import ReviewDiff.Diff.Script
import ReviewDiff.Proofs.Diff.WayBack

/-!
# Only the pattern of equal lines counts

Two comparisons are alike when their sides are as long and an old line equals a new one in one of
them exactly if the lines at the same places are equal in the other. Every stage of the comparison
asks nothing else of its lines, so it gives the same answer in both. Numbers in place of texts make
a comparison that is alike, since no two texts get one number.
-/

set_option autoImplicit false

namespace ReviewDiff

namespace Search

variable {α β : Type}

structure Alike (a b : Array α) (a' b' : Array β) : Prop where
  columns : a.size = a'.size
  rows : b.size = b'.size
  same : ∀ x y, Same a b x y ↔ Same a' b' x y

variable [DecidableEq α] [DecidableEq β] {a b : Array α} {a' b' : Array β}

theorem slide_alike (h : Alike a b a' b') (x y : Nat) : slide a b x y = slide a' b' x y := by
  obtain ⟨s, hslide, hsame, hend⟩ := slide_spec a b x y
  obtain ⟨s', hslide', hsame', hend'⟩ := slide_spec a' b' x y
  rcases Nat.lt_trichotomy s s' with hlt | rfl | hlt
  · exact absurd ((h.same _ _).mpr (hsame' s hlt)) hend
  · rw [hslide, hslide']
  · exact absurd ((h.same _ _).mp (hsame s' hlt)) hend'

theorem advance_alike (h : Alike a b a' b') (d : Nat) (f : Frontier) :
    advance a b d f = advance a' b' d f := by
  simp only [advance, h.columns, h.rows, slide_alike h]

omit [DecidableEq α] [DecidableEq β] in
theorem arrives_alike (h : Alike a b a' b') (d : Nat) (f : Frontier) :
    arrives a b d f = arrives a' b' d f := by
  simp only [arrives, h.columns, h.rows]

theorem search_alike (h : Alike a b a' b') (fuel d : Nat) (f : Frontier) (before : List Frontier) :
    search a b fuel d f before = search a' b' fuel d f before := by
  induction fuel generalizing d f before with
  | zero => simp only [search, arrives_alike h]
  | succ fuel ih => simp only [search, arrives_alike h, advance_alike h, ih]

theorem steps_alike (h : Alike a b a' b') : steps? a b = steps? a' b' := by
  simp only [steps?, trace, start, slide_alike h, search_alike h, h.columns, h.rows]

end Search

structure Alike {α β : Type} (old new : List α) (old' new' : List β) : Prop where
  old_length : old.length = old'.length
  new_length : new.length = new'.length
  same : ∀ i < old.length, ∀ j < new.length, (old[i]? = new[j]? ↔ old'[i]? = new'[j]?)

namespace Alike

variable {α β : Type} {old new : List α} {old' new' : List β}

theorem drop (h : Alike old new old' new') (m n : Nat) :
    Alike (old.drop m) (new.drop n) (old'.drop m) (new'.drop n) where
  old_length := by rw [List.length_drop, List.length_drop, h.old_length]
  new_length := by rw [List.length_drop, List.length_drop, h.new_length]
  same i hi j hj := by
    rw [List.length_drop] at hi hj
    simp only [List.getElem?_drop]
    exact h.same (m+i) (by omega) (n+j) (by omega)

theorem take (h : Alike old new old' new') (m n : Nat) :
    Alike (old.take m) (new.take n) (old'.take m) (new'.take n) where
  old_length := by rw [List.length_take, List.length_take, h.old_length]
  new_length := by rw [List.length_take, List.length_take, h.new_length]
  same i hi j hj := by
    rw [List.length_take] at hi hj
    rw [List.getElem?_take_of_lt (by omega), List.getElem?_take_of_lt (by omega),
      List.getElem?_take_of_lt (by omega), List.getElem?_take_of_lt (by omega)]
    exact h.same i (by omega) j (by omega)

theorem reverse (h : Alike old new old' new') :
    Alike old.reverse new.reverse old'.reverse new'.reverse where
  old_length := by rw [List.length_reverse, List.length_reverse, h.old_length]
  new_length := by rw [List.length_reverse, List.length_reverse, h.new_length]
  same i hi j hj := by
    have hold := h.old_length
    have hnew := h.new_length
    rw [List.length_reverse] at hi hj
    rw [List.getElem?_reverse hi, List.getElem?_reverse hj, List.getElem?_reverse (by omega),
      List.getElem?_reverse (by omega), ← hold, ← hnew]
    exact h.same _ (by omega) _ (by omega)

theorem toSearch (h : Alike old new old' new') :
    Search.Alike old.toArray new.toArray old'.toArray new'.toArray where
  columns := by simpa using h.old_length
  rows := by simpa using h.new_length
  same x y := by
    have hold := h.old_length
    have hnew := h.new_length
    constructor
    · rintro ⟨hx, hy, heq⟩
      simp only [List.size_toArray, List.getElem_toArray] at hx hy heq
      have := h.same x hx y hy
      refine ⟨by simpa using hold ▸ hx, by simpa using hnew ▸ hy, ?_⟩
      simpa [hx, hy, heq, hold ▸ hx, hnew ▸ hy] using this
    · rintro ⟨hx, hy, heq⟩
      simp only [List.size_toArray, List.getElem_toArray] at hx hy heq
      have := h.same x (hold ▸ hx) y (hnew ▸ hy)
      refine ⟨by simpa using hold ▸ hx, by simpa using hnew ▸ hy, ?_⟩
      simpa [hx, hy, heq, hold ▸ hx, hnew ▸ hy] using this

theorem map {f : α → β} (hf : Set.InjOn f {line | line ∈ old ∨ line ∈ new}) :
    Alike old new (old.map f) (new.map f) where
  old_length := List.length_map .. |>.symm
  new_length := List.length_map .. |>.symm
  same i hi j hj := by
    have hline := hf.eq_iff (.inl (List.getElem_mem hi)) (.inr (List.getElem_mem hj))
    simp [hi, hj, hline]

end Alike

section

variable {α β : Type} [DecidableEq α] [DecidableEq β] {old new : List α} {old' new' : List β}

theorem commonStart_alike (h : Alike old new old' new') :
    commonStart old new = commonStart old' new' := by
  induction old generalizing new old' new' with
  | nil =>
    obtain rfl := List.length_eq_zero_iff.mp h.old_length.symm
    simp [commonStart]
  | cons line old ih =>
    cases new with
    | nil =>
      obtain rfl := List.length_eq_zero_iff.mp h.new_length.symm
      simp [commonStart]
    | cons other new =>
      obtain ⟨line', old', rfl⟩ := List.exists_cons_of_length_eq_add_one h.old_length.symm
      obtain ⟨other', new', rfl⟩ := List.exists_cons_of_length_eq_add_one h.new_length.symm
      have hhead : line = other ↔ line' = other' := by simpa using h.same 0 (by simp) 0 (by simp)
      have hrest : commonStart old new = commonStart old' new' := ih (h.drop 1 1)
      simp only [commonStart, hhead, hrest]

theorem commonEnd_alike (h : Alike old new old' new') :
    commonEnd old new = commonEnd old' new' :=
  commonStart_alike h.reverse

theorem editSteps_alike (h : Alike old new old' new') :
    editSteps? old new = editSteps? old' new' := by
  have hstart := commonStart_alike h
  have hrest := h.drop (commonStart old' new') (commonStart old' new')
  have hend := commonEnd_alike hrest
  simp only [editSteps?, hstart, hend, hrest.old_length, hrest.new_length,
    Search.steps_alike (hrest.take _ _).toSearch]

end

namespace Symbols

variable {α : Type} [DecidableEq α]

/-- No two texts have one number, and the numbers given so far are below the next one. -/
structure Proper (known : Symbols α) : Prop where
  apart : ∀ {text other : α} {n : Nat}, known.get? text = some n → known.get? other = some n →
    text = other
  below : ∀ {text : α} {n : Nat}, known.get? text = some n → n < known.length

def Extends (known later : Symbols α) : Prop :=
  ∀ {text : α} {n : Nat}, known.get? text = some n → later.get? text = some n

theorem empty_proper : Proper ([] : Symbols α) := ⟨by simp [Assoc.get?], by simp [Assoc.get?]⟩

variable {known : Symbols α}

theorem intern_spec (h : known.Proper) (text : α) :
    (known.intern text).2.Proper ∧ known.Extends (known.intern text).2 ∧
      (known.intern text).2.get? text = some (known.intern text).1 := by
  cases hget : known.get? text with
  | some n =>
    have hintern : known.intern text = (n, known) := by simp only [intern, hget]
    rw [hintern]
    exact ⟨h, fun hother => hother, hget⟩
  | none =>
    have hintern : known.intern text = (known.length, known.put text known.length) := by
      simp only [intern, hget]
    have hlength : (known.put text known.length).length = known.length + 1 := by
      rw [Assoc.put_absent _ (Assoc.get?_eq_none_iff.mp hget), List.length_append,
        List.length_singleton]
    have hget_put (other : α) : (known.put text known.length).get? other =
        if text = other then some known.length else known.get? other := by
      split
      · rename_i heq
        rw [← heq, Assoc.get?_put_self]
      · rename_i hne
        exact Assoc.get?_put_ne known _ hne
    rw [hintern]
    refine ⟨⟨fun {one other n} hone hother => ?_, fun {other n} hother => ?_⟩, ?_,
      Assoc.get?_put_self ..⟩
    · rw [hget_put] at hone hother
      split at hone <;> split at hother
      · simp_all
      · obtain rfl := Option.some.inj hone
        exact absurd (h.below hother) (Nat.lt_irrefl _)
      · obtain rfl := Option.some.inj hother
        exact absurd (h.below hone) (Nat.lt_irrefl _)
      · exact h.apart hone hother
    · rw [hget_put] at hother
      rw [hlength]
      split at hother
      · obtain rfl := Option.some.inj hother
        exact Nat.lt_succ_self _
      · exact Nat.lt_succ_of_lt (h.below hother)
    · intro other n hother
      rw [hget_put, if_neg, hother]
      rintro rfl
      rw [hget] at hother
      cases hother

theorem internAll_spec (h : known.Proper) (texts : List α) :
    (known.internAll texts).2.Proper ∧ known.Extends (known.internAll texts).2 ∧
      (known.internAll texts).1.map some = texts.map (known.internAll texts).2.get? := by
  induction texts generalizing known with
  | nil => exact ⟨h, fun hother => hother, rfl⟩
  | cons text rest ih =>
    obtain ⟨hnext, hkept, hnumber⟩ := intern_spec h text
    obtain ⟨hlast, hkept', hnumbers⟩ := ih hnext
    refine ⟨hlast, fun hother => hkept' (hkept hother), ?_⟩
    rw [internAll, List.map_cons, List.map_cons, hnumbers, hkept' hnumber]

end Symbols

section

variable {α β : Type} [DecidableEq α] [DecidableEq β]

theorem internAll_alike (old new : List α) :
    Alike (Symbols.internAll [] old).1
      ((Symbols.internAll [] old).2.internAll new).1 old new := by
  obtain ⟨hproper, -, hold⟩ := Symbols.internAll_spec Symbols.empty_proper old
  obtain ⟨hlast, hkept, hnew⟩ := Symbols.internAll_spec hproper new
  generalize (Symbols.internAll [] old).1 = oldNumbers at hold ⊢
  generalize (Symbols.internAll [] old).2 = known at hproper hlast hkept hold hnew ⊢
  generalize (known.internAll new).1 = newNumbers at hnew ⊢
  generalize (known.internAll new).2 = later at hlast hkept hnew
  have holdLength : oldNumbers.length = old.length := by simpa using congrArg List.length hold
  have hnewLength : newNumbers.length = new.length := by simpa using congrArg List.length hnew
  refine ⟨holdLength, hnewLength, fun i hi j hj => ?_⟩
  have hnumber : known.get? old[i] = some oldNumbers[i] := by
    have hcell := congrArg (·[i]?) hold
    simpa [hi, holdLength ▸ hi] using hcell.symm
  have hnumber' : later.get? new[j] = some newNumbers[j] := by
    have hcell := congrArg (·[j]?) hnew
    simpa [hj, hnewLength ▸ hj] using hcell.symm
  rw [List.getElem?_eq_getElem hi, List.getElem?_eq_getElem hj,
    List.getElem?_eq_getElem (holdLength ▸ hi), List.getElem?_eq_getElem (hnewLength ▸ hj),
    Option.some.injEq, Option.some.injEq]
  constructor
  · intro heq
    exact hlast.apart (hkept hnumber) (heq ▸ hnumber')
  · intro heq
    have hsame := hkept hnumber
    rw [heq, hnumber'] at hsame
    exact (Option.some.inj hsame).symm

theorem editScript?_steps (old new : List α) :
    editScript? old new = (editSteps? old new).map Script.ofSteps := by
  rw [← editSteps_alike (internAll_alike old new)]
  rfl

theorem editScript_alike {old new : List α} {old' new' : List β} (h : Alike old new old' new') :
    editScript old new = editScript old' new' := by
  rw [editScript, editScript, editScript?_steps, editScript?_steps, editSteps_alike h]

end

/-- Texts that are relabelled so that different ones stay apart have the same script as before, and
it makes no difference which of the lines are given as lines of a file, or with which numbers. -/
theorem compareLines_pattern {old new old' new' : List Comparand} {f : Points → Points}
    (hf : Set.InjOn f {text | text ∈ Comparand.texts old ∨ text ∈ Comparand.texts new})
    (hold : Comparand.texts old' = (Comparand.texts old).map f)
    (hnew : Comparand.texts new' = (Comparand.texts new).map f) :
    compareLines old' new' = compareLines old new := by
  rw [compareLines, compareLines, hold, hnew]
  exact (editScript_alike (Alike.map hf)).symm

/-- Plain texts beside lines of a file under other labels, two of which have one number. -/
theorem compareLines_pattern_numbered :
    let f : Points → Points := fun text => if text = "a" then "b" else "c"
    let old : List Comparand := [.plain "a", .plain "d", .plain "a"]
    let new : List Comparand := [.plain "d", .numbered ⟨1, "a"⟩]
    let old' : List Comparand := [.numbered ⟨7, "b"⟩, .numbered ⟨7, "c"⟩, .plain "b"]
    let new' : List Comparand := [.numbered ⟨0, "c"⟩, .plain "b"]
    Set.InjOn f {text | text ∈ Comparand.texts old ∨ text ∈ Comparand.texts new} ∧
      Comparand.texts old' = (Comparand.texts old).map f ∧
      Comparand.texts new' = (Comparand.texts new).map f ∧
      compareLines old' new' = compareLines old new := by
  intro f old new old' new'
  have hf : Set.InjOn f {text | text ∈ Comparand.texts old ∨ text ∈ Comparand.texts new} := by
    have hlabels : ∀ text, text ∈ Comparand.texts old ∨ text ∈ Comparand.texts new →
        text = "a" ∨ text = "d" := by
      simp [old, new, Comparand.texts, Comparand.text]
    have hapart : f "a" ≠ f "d" := by decide
    intro text htext other hother heq
    rcases hlabels text htext with rfl | rfl <;> rcases hlabels other hother with rfl | rfl
    · rfl
    · exact absurd heq hapart
    · exact absurd heq.symm hapart
    · rfl
  have hold : Comparand.texts old' = (Comparand.texts old).map f := by decide
  have hnew : Comparand.texts new' = (Comparand.texts new).map f := by decide
  exact ⟨hf, hold, hnew, compareLines_pattern hf hold hnew⟩

end ReviewDiff
