import Mathlib.Data.List.Chain
import ReviewDiff.Diff.Edit

/-!
# What steps do to two sequences

Steps lead from one sequence to another when they use up both, line by line, and keep a line only
where both have it. The lines that are kept are common to both sequences, and every common
subsequence is kept by some steps. So the fewest deletions and insertions keep a longest one, and
what two sequences have in common at either end is always part of it.
-/

set_option autoImplicit false

namespace ReviewDiff

variable {α : Type}

namespace Step

/-- The steps use up both sequences, the old one and the new one. -/
inductive Edits : List Step → List α → List α → Prop
  | nil : Edits [] [] []
  | keep {steps : List Step} {old new : List α} (line : α) (rest : Edits steps old new) :
      Edits (.keep :: steps) (line :: old) (line :: new)
  | delete {steps : List Step} {old new : List α} (line : α) (rest : Edits steps old new) :
      Edits (.delete :: steps) (line :: old) new
  | insert {steps : List Step} {old new : List α} (line : α) (rest : Edits steps old new) :
      Edits (.insert :: steps) old (line :: new)

/-- How many lines are deleted or inserted. -/
def cost (steps : List Step) : Nat := steps.countP fun step => step ≠ .keep

@[simp] theorem cost_nil : cost [] = 0 := rfl

@[simp] theorem cost_keep (steps : List Step) : cost (.keep :: steps) = cost steps := by
  simp [cost]

@[simp] theorem cost_delete (steps : List Step) : cost (.delete :: steps) = cost steps + 1 := by
  simp [cost]

@[simp] theorem cost_insert (steps : List Step) : cost (.insert :: steps) = cost steps + 1 := by
  simp [cost]

@[simp] theorem cost_append (steps rest : List Step) :
    cost (steps ++ rest) = cost steps + cost rest := List.countP_append

@[simp] theorem cost_replicate (n : Nat) (step : Step) :
    cost (List.replicate n step) = if step = .keep then 0 else n := by
  cases step <;> simp [cost, List.countP_replicate]

theorem edits_append {steps rest : List Step} {old new old' new' : List α}
    (h : Edits steps old new) (h' : Edits rest old' new') :
    Edits (steps ++ rest) (old ++ old') (new ++ new') := by
  induction h with
  | nil => exact h'
  | keep line _ ih => exact .keep line ih
  | delete line _ ih => exact .delete line ih
  | insert line _ ih => exact .insert line ih

theorem edits_keep (lines : List α) : Edits (List.replicate lines.length .keep) lines lines := by
  induction lines with
  | nil => exact .nil
  | cons line lines ih => exact .keep line ih

theorem edits_delete (lines : List α) : Edits (List.replicate lines.length .delete) lines [] := by
  induction lines with
  | nil => exact .nil
  | cons line lines ih => exact .delete line ih

theorem edits_insert (lines : List α) : Edits (List.replicate lines.length .insert) [] lines := by
  induction lines with
  | nil => exact .nil
  | cons line lines ih => exact .insert line ih

theorem edits_nil_left {steps : List Step} {new : List α} (h : Edits steps [] new) :
    steps = List.replicate new.length .insert := by
  induction new generalizing steps with
  | nil =>
    cases h
    rfl
  | cons line new ih =>
    cases h with
    | insert _ rest =>
      rw [ih rest]
      rfl

theorem edits_nil_right {steps : List Step} {old : List α} (h : Edits steps old []) :
    steps = List.replicate old.length .delete := by
  induction old generalizing steps with
  | nil =>
    cases h
    rfl
  | cons line old ih =>
    cases h with
    | delete _ rest =>
      rw [ih rest]
      rfl

theorem edits_replace (old new : List α) :
    Edits (List.replicate old.length .delete ++ List.replicate new.length .insert) old new := by
  simpa using edits_append (edits_delete old) (edits_insert new)

end Step

open Step

/-- A common subsequence of both sequences, and no other one is longer. -/
structure LongestCommon (common old new : List α) : Prop where
  sub_old : common.Sublist old
  sub_new : common.Sublist new
  longest : ∀ other : List α, other.Sublist old → other.Sublist new →
    other.length ≤ common.length

theorem edits_common {steps : List Step} {old new : List α} (h : Edits steps old new) :
    ∃ common : List α, common.Sublist old ∧ common.Sublist new ∧
      cost steps + 2 * common.length = old.length + new.length := by
  induction h with
  | nil => exact ⟨[], .slnil, .slnil, rfl⟩
  | keep line _ ih =>
    obtain ⟨common, hold, hnew, hcost⟩ := ih
    refine ⟨line :: common, hold.cons_cons line, hnew.cons_cons line, ?_⟩
    simp only [cost_keep, List.length_cons]
    omega
  | delete line _ ih =>
    obtain ⟨common, hold, hnew, hcost⟩ := ih
    refine ⟨common, hold.cons line, hnew, ?_⟩
    simp only [cost_delete, List.length_cons]
    omega
  | insert line _ ih =>
    obtain ⟨common, hold, hnew, hcost⟩ := ih
    refine ⟨common, hold, hnew.cons line, ?_⟩
    simp only [cost_insert, List.length_cons]
    omega

theorem common_edits {common old new : List α} (hold : common.Sublist old)
    (hnew : common.Sublist new) :
    ∃ steps : List Step, Edits steps old new ∧
      cost steps + 2 * common.length = old.length + new.length := by
  induction hold generalizing new with
  | slnil =>
    refine ⟨_, edits_insert new, ?_⟩
    simp
  | cons line _ ih =>
    obtain ⟨steps, h, hcost⟩ := ih hnew
    refine ⟨.delete :: steps, .delete line h, ?_⟩
    simp only [cost_delete, List.length_cons]
    omega
  | cons_cons line _ ih =>
    -- The new sequence is used up to its own copy of the line.
    induction new with
    | nil => cases hnew
    | cons head new ihnew =>
      cases hnew with
      | cons _ hrest =>
        obtain ⟨steps, h, hcost⟩ := ihnew hrest
        refine ⟨.insert :: steps, .insert head h, ?_⟩
        simp only [cost_insert, List.length_cons] at hcost ⊢
        omega
      | cons_cons _ hrest =>
        obtain ⟨steps, h, hcost⟩ := ih hrest
        refine ⟨.keep :: steps, .keep line h, ?_⟩
        simp only [cost_keep, List.length_cons]
        omega

theorem cheapest_common {steps : List Step} {old new : List α} (h : Edits steps old new)
    (hmin : ∀ other : List Step, Edits other old new → cost steps ≤ cost other) :
    ∃ common : List α, LongestCommon common old new ∧
      cost steps + 2 * common.length = old.length + new.length := by
  obtain ⟨common, hold, hnew, hcost⟩ := edits_common h
  refine ⟨common, ⟨hold, hnew, fun other hother hother' => ?_⟩, hcost⟩
  obtain ⟨otherSteps, hedits, hsum⟩ := common_edits hother hother'
  have := hmin otherSteps hedits
  omega

theorem longest_cheapest {common old new : List α} (h : LongestCommon common old new)
    {steps : List Step} (hsteps : Edits steps old new) :
    old.length + new.length ≤ cost steps + 2 * common.length := by
  obtain ⟨kept, hold, hnew, hcost⟩ := edits_common hsteps
  have := h.longest kept hold hnew
  omega

theorem longest_whole {common old new : List α} (h : LongestCommon common old new) :
    common.length = old.length ∧ common.length = new.length ↔ old = new := by
  constructor
  · rintro ⟨hold, hnew⟩
    rw [← h.sub_old.eq_of_length hold, ← h.sub_new.eq_of_length hnew]
  · rintro rfl
    have hlength := Nat.le_antisymm h.sub_old.length_le (h.longest old (.refl old) (.refl old))
    exact ⟨hlength, hlength⟩

theorem longest_cons (line : α) {common old new : List α} (h : LongestCommon common old new) :
    LongestCommon (line :: common) (line :: old) (line :: new) := by
  refine ⟨h.sub_old.cons_cons line, h.sub_new.cons_cons line, fun other hold hnew => ?_⟩
  have hlen := h.longest other.tail hold.tail hnew.tail
  simp only [List.length_tail, List.length_cons] at hlen ⊢
  omega

theorem longest_prepend (start : List α) {common old new : List α}
    (h : LongestCommon common old new) :
    LongestCommon (start ++ common) (start ++ old) (start ++ new) := by
  induction start with
  | nil => exact h
  | cons line start ih => exact longest_cons line ih

theorem longest_reverse {common old new : List α} (h : LongestCommon common old new) :
    LongestCommon common.reverse old.reverse new.reverse := by
  refine ⟨h.sub_old.reverse, h.sub_new.reverse, fun other hold hnew => ?_⟩
  have hlen := h.longest other.reverse (by simpa using hold.reverse) (by simpa using hnew.reverse)
  simpa using hlen

theorem longest_append (finish : List α) {common old new : List α}
    (h : LongestCommon common old new) :
    LongestCommon (common ++ finish) (old ++ finish) (new ++ finish) := by
  simpa using longest_reverse (longest_prepend finish.reverse (longest_reverse h))

end ReviewDiff
