import ReviewDiff.Diff.Script
import ReviewDiff.Proofs.Diff.Segments
import ReviewDiff.Proofs.Diff.Pattern

/-!
# The script between two files is shortest

What two sequences have in common at the start and at the end belongs to a longest common
subsequence, so only the rest has to be searched. The search always arrives, its steps are the
cheapest, and the script of these steps is valid, canonical and no longer than any other.
-/

set_option autoImplicit false

namespace ReviewDiff

open Step

variable {α : Type} [DecidableEq α]

theorem commonStart_split (old new : List α) :
    ∃ start o n, start.length = commonStart old new ∧ old = start ++ o ∧ new = start ++ n := by
  fun_induction commonStart old new with
  | case1 old b new ih =>
    obtain ⟨start, o, n, hlen, rfl, rfl⟩ := ih
    exact ⟨b :: start, o, n, by simp [hlen], rfl, rfl⟩
  | case2 a old b new hne => exact ⟨[], a :: old, b :: new, rfl, rfl, rfl⟩
  | case3 old new => exact ⟨[], old, new, rfl, rfl, rfl⟩

theorem commonEnd_split (old new : List α) :
    ∃ o n finish, finish.length = commonEnd old new ∧ old = o ++ finish ∧ new = n ++ finish := by
  obtain ⟨start, o, n, hlen, hold, hnew⟩ := commonStart_split old.reverse new.reverse
  refine ⟨o.reverse, n.reverse, start.reverse, by simpa [commonEnd] using hlen, ?_, ?_⟩
  · simpa using congrArg List.reverse hold
  · simpa using congrArg List.reverse hnew

theorem editSteps_middle (old new : List α) :
    ∃ start o n finish, old = start ++ (o ++ finish) ∧ new = start ++ (n ++ finish) ∧
      start.length = commonStart old new ∧ finish.length = commonEnd (o ++ finish) (n ++ finish) ∧
      editSteps? old new = (Search.steps? o.toArray n.toArray).map fun middle =>
        List.replicate start.length .keep ++ middle ++ List.replicate finish.length .keep := by
  obtain ⟨start, oldRest, newRest, hstart, rfl, rfl⟩ := commonStart_split old new
  obtain ⟨o, n, finish, hfinish, rfl, rfl⟩ := commonEnd_split oldRest newRest
  refine ⟨start, o, n, finish, rfl, rfl, hstart, hfinish, ?_⟩
  rw [editSteps?, ← hstart]
  simp [← hfinish]

theorem editSteps_cheapest (old new : List α) :
    ∃ steps, editSteps? old new = some steps ∧ Edits steps old new ∧
      ∀ other, Edits other old new → cost steps ≤ cost other := by
  obtain ⟨start, o, n, finish, rfl, rfl, -, -, hsteps⟩ := editSteps_middle old new
  obtain ⟨middle, hmiddle, hedits, hleast⟩ := Search.steps_cheapest o.toArray n.toArray
  rw [hmiddle, Option.map_some] at hsteps
  obtain ⟨common, hcommon, hcost⟩ := cheapest_common hedits hleast
  have hwhole := longest_prepend start (longest_append finish hcommon)
  refine ⟨_, hsteps, ?_, fun other h => ?_⟩
  · rw [List.append_assoc]
    exact edits_append (edits_keep start) (edits_append hedits (edits_keep finish))
  · have hother := longest_cheapest hwhole h
    simp only [cost_append, cost_replicate, if_true, List.length_append] at hother hcost ⊢
    omega

theorem editScript_ofSteps (old new : List α) :
    ∃ steps, editScript? old new = some (editScript old new) ∧
      editScript old new = Script.ofSteps steps ∧ Edits steps old new ∧
      ∀ other, Edits other old new → cost steps ≤ cost other := by
  obtain ⟨steps, hsteps, hedits, hleast⟩ := editSteps_cheapest old new
  have hscript : editScript? old new = some (Script.ofSteps steps) := by
    rw [editScript?_steps, hsteps, Option.map_some]
  exact ⟨steps, by rw [editScript, hscript, Option.getD_some],
    by rw [editScript, hscript, Option.getD_some], hedits, hleast⟩

theorem editScript_common (old new : List α) :
    ∃ common, LongestCommon common old new ∧
      (editScript old new).cost + 2 * common.length = old.length + new.length := by
  obtain ⟨steps, -, heq, hedits, hleast⟩ := editScript_ofSteps old new
  rw [heq, ofSteps_cost]
  exact cheapest_common hedits hleast

/-- The search never ends without a script, and no valid script deletes and inserts fewer lines:
what is neither deleted nor inserted is a longest common subsequence. -/
theorem editScript_shortest (old new : List α) :
    editScript? old new = some (editScript old new) ∧
      (editScript old new).Between old new ∧
      (∀ other : Script, other.Between old new → (editScript old new).cost ≤ other.cost) ∧
      ∃ common, LongestCommon common old new ∧
        (editScript old new).cost + 2 * common.length = old.length + new.length := by
  obtain ⟨steps, hscript, heq, hedits, hleast⟩ := editScript_ofSteps old new
  obtain ⟨common, hcommon, hcost⟩ := cheapest_common hedits hleast
  refine ⟨hscript, ?_, fun other h => ?_, common, hcommon, ?_⟩
  · rw [heq]
    exact (ofSteps_valid hedits).1
  · obtain ⟨otherSteps, hother, hsum⟩ := Script.between_edits h
    rw [heq, ofSteps_cost, ← hsum]
    exact hleast otherSteps hother
  · rw [heq, ofSteps_cost]
    exact hcost

/-- The script is valid and in canonical form, and replaying it on the old sequence gives the new
one. -/
theorem editScript_canonical (old new : List α) :
    editScript? old new = some (editScript old new) ∧
      (editScript old new).Between old new ∧ (editScript old new).Canonical ∧
      (editScript old new).replay old new = new := by
  obtain ⟨steps, hscript, heq, hedits, -⟩ := editScript_ofSteps old new
  obtain ⟨hbetween, hcanonical⟩ := ofSteps_valid hedits
  rw [← heq] at hbetween hcanonical
  exact ⟨hscript, hbetween, hcanonical, Script.between_replay hbetween⟩

end ReviewDiff
