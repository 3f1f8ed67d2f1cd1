import ReviewDiff.Proofs.Diff.Output
import ReviewDiff.Proofs.Diff.Shortest

/-!
# The script keeps the common ends

What two sequences have in common at the start is kept first, all of it and nothing more, and then
the same of what they have in common at the end behind it. Between them neither the first nor the
last step keeps a line, since a line kept there would make one of the common ends longer.
-/

set_option autoImplicit false

namespace ReviewDiff

open Step Segment

variable {α : Type}

/-- All that two sequences have in common at the start. -/
structure LongestStart (start old new : List α) : Prop where
  start_old : start <+: old
  start_new : start <+: new
  longest : ∀ other : List α, other <+: old → other <+: new → other.length ≤ start.length

/-- All that two sequences have in common at the end. -/
structure LongestEnd (finish old new : List α) : Prop where
  end_old : finish <:+ old
  end_new : finish <:+ new
  longest : ∀ other : List α, other <:+ old → other <:+ new → other.length ≤ finish.length

section

variable [DecidableEq α]

theorem commonStart_longest {old new other : List α} (hold : other <+: old) (hnew : other <+: new) :
    other.length ≤ commonStart old new := by
  induction other generalizing old new with
  | nil => exact Nat.zero_le _
  | cons line other ih =>
    obtain ⟨oldRest, rfl⟩ := hold
    obtain ⟨newRest, rfl⟩ := hnew
    have hrest := ih (List.prefix_append other oldRest) (List.prefix_append other newRest)
    simpa [commonStart] using hrest

theorem commonEnd_longest {old new other : List α} (hold : other <:+ old) (hnew : other <:+ new) :
    other.length ≤ commonEnd old new := by
  have hlength := commonStart_longest (List.reverse_prefix.mpr hold) (List.reverse_prefix.mpr hnew)
  rwa [List.length_reverse] at hlength

end

theorem LongestStart.next_ne {start old new : List α} {line other : α}
    (h : LongestStart start (start ++ line :: old) (start ++ other :: new)) : line ≠ other := by
  rintro rfl
  have hlength := h.longest (start ++ [line]) ⟨old, by simp⟩ ⟨new, by simp⟩
  rw [List.length_append] at hlength
  exact absurd hlength (Nat.not_succ_le_self _)

theorem LongestEnd.last_ne {finish old new : List α} {line other : α}
    (h : LongestEnd finish (old ++ [line] ++ finish) (new ++ [other] ++ finish)) :
    line ≠ other := by
  rintro rfl
  have hlength := h.longest (line :: finish) ⟨old, by simp⟩ ⟨new, by simp⟩
  exact absurd hlength (Nat.not_succ_le_self _)

theorem LongestStart.finish_nil {start finish : List α}
    (h : LongestStart start (start ++ finish) (start ++ finish)) : finish = [] := by
  have hlength := h.longest (start ++ finish) List.prefix_rfl List.prefix_rfl
  rw [List.length_append] at hlength
  exact List.length_eq_zero_iff.mp (by omega)

theorem edits_first {steps : List Step} {old new : List α} (h : Edits steps old new)
    (hfirst : steps.head? = some .keep) :
    ∃ line old' new', old = line :: old' ∧ new = line :: new' := by
  cases h with
  | keep line rest => exact ⟨line, _, _, rfl, rfl⟩
  | nil => cases hfirst
  | delete line rest => cases hfirst
  | insert line rest => cases hfirst

theorem edits_last {steps : List Step} {old new : List α} (h : Edits steps old new)
    (hlast : steps.getLast? = some .keep) :
    ∃ line old' new', old = old' ++ [line] ∧ new = new' ++ [line] := by
  induction h with
  | nil => cases hlast
  | @keep steps old new line rest ih =>
    cases steps with
    | nil =>
      cases rest
      exact ⟨line, [], [], rfl, rfl⟩
    | cons step steps =>
      obtain ⟨last, old', new', rfl, rfl⟩ := ih (by simpa using hlast)
      exact ⟨last, line :: old', line :: new', rfl, rfl⟩
  | @delete steps old new line rest ih =>
    cases steps with
    | nil => cases hlast
    | cons step steps =>
      obtain ⟨last, old', new', rfl, rfl⟩ := ih (by simpa using hlast)
      exact ⟨last, line :: old', new', rfl, rfl⟩
  | @insert steps old new line rest ih =>
    cases steps with
    | nil => cases hlast
    | cons step steps =>
      obtain ⟨last, old', new', rfl, rfl⟩ := ih (by simpa using hlast)
      exact ⟨last, old', line :: new', rfl, rfl⟩

section

variable {start finish old new : List α} {steps : List Step}

theorem LongestStart.head_ne_keep
    (h : LongestStart start (start ++ (old ++ finish)) (start ++ (new ++ finish)))
    (hsteps : Edits steps old new) : steps.head? ≠ some .keep := by
  intro hkeep
  obtain ⟨line, old', new', rfl, rfl⟩ := edits_first hsteps hkeep
  exact h.next_ne rfl

theorem LongestEnd.getLast_ne_keep (h : LongestEnd finish (old ++ finish) (new ++ finish))
    (hsteps : Edits steps old new) : steps.getLast? ≠ some .keep := by
  intro hkeep
  obtain ⟨line, old', new', rfl, rfl⟩ := edits_last hsteps hkeep
  exact h.last_ne rfl

end

theorem onto_ne_nil (step : Step) (runs : List Run) : step.onto runs ≠ [] := by
  cases step <;> rcases runs with _ | ⟨_ | _, rest⟩ <;> simp [Step.onto]

theorem onto_append (step : Step) {runs : List Run} (hruns : runs ≠ []) (rest : List Run) :
    step.onto (runs ++ rest) = step.onto runs ++ rest := by
  rcases runs with _ | ⟨_ | _, runs⟩
  · exact absurd rfl hruns
  · cases step <;> rfl
  · cases step <;> rfl

theorem onto_runs {step next : Step} (h : ¬ (step = .keep ↔ next = .keep)) (rest : List Step) :
    step.onto (Step.runs (next :: rest)) = step.onto [] ++ Step.runs (next :: rest) := by
  rw [Step.runs]
  cases step <;> cases next <;> simp at h <;>
    rcases Step.runs rest with _ | ⟨_ | _, runs⟩ <;> rfl

theorem runs_append {steps rest : List Step}
    (h : ∀ step ∈ steps.getLast?, ∀ next ∈ rest.head?, ¬ (step = .keep ↔ next = .keep)) :
    Step.runs (steps ++ rest) = Step.runs steps ++ Step.runs rest := by
  induction steps with
  | nil => rfl
  | cons step steps ih =>
    cases steps with
    | nil =>
      cases rest with
      | nil => simp [Step.runs]
      | cons next rest => exact onto_runs (h step (by simp) next (by simp)) rest
    | cons second steps =>
      have hrest := ih (by simpa using h)
      have hsome : Step.runs (second :: steps) ≠ [] := onto_ne_nil second _
      rw [List.cons_append, Step.runs, hrest, onto_append step hsome, ← Step.runs]

theorem runs_between (count count' : Nat) {steps : List Step} (hfirst : steps.head? ≠ some .keep)
    (hlast : steps.getLast? ≠ some .keep) (hnone : steps = [] → count' = 0) :
    Step.runs (List.replicate count .keep ++ (steps ++ List.replicate count' .keep)) =
      Step.runs (List.replicate count .keep) ++
        (Step.runs steps ++ Step.runs (List.replicate count' .keep)) := by
  have hkeep (n : Nat) : ∀ step ∈ List.replicate n Step.keep, step = .keep := fun _ =>
    List.eq_of_mem_replicate
  rw [runs_append, runs_append]
  · intro step hstep next hnext
    have hne : step ≠ .keep := fun heq => hlast (heq ▸ hstep)
    simp [hne, hkeep count' next (List.mem_of_mem_head? hnext)]
  · intro step hstep next hnext
    have hne : next ≠ .keep := by
      rintro rfl
      cases steps with
      | nil => simp [hnone rfl] at hnext
      | cons first steps => exact hfirst hnext
    simp [hne, hkeep count step (List.mem_of_getLast? hstep)]

namespace Segment

def Filled : Segment α → Prop
  | .kept lines => lines ≠ []
  | .changed removed added => removed ≠ [] ∨ added ≠ []

theorem Alternate.filled {turn : Bool} {segments : List (Segment α)} (h : Alternate turn segments) :
    ∀ segment ∈ segments, segment.Filled := by
  induction h with
  | nil => simp
  | kept hlines _ ih => simpa [Filled, hlines] using ih
  | changed hlines _ ih => simpa [Filled, hlines] using ih

theorem walk_unchanged (i j : Nat) {lines : List α} (h : lines ≠ []) :
    walk edits i j (unchanged lines) =
      [.equal (.ofSize i lines.length) (.ofSize j lines.length)] := by
  simp [unchanged, h, walk, edits]

structure ChangedEnds (segments : List (Segment α)) : Prop where
  alternate : Alternate false segments
  last : ∀ lines, segments.getLast? ≠ some (.kept lines)

theorem changed_edits (i j : Nat) {removed added : List α} (h : removed ≠ [] ∨ added ≠ []) :
    edits i j (.changed removed added) ≠ [] ∧
      ∀ edit ∈ edits i j (.changed removed added), edit.step ≠ .keep := by
  by_cases hr : removed = [] <;> by_cases ha : added = [] <;>
    simp_all [edits, Edit.step]

variable {segments : List (Segment α)}

theorem ChangedEnds.head (h : ChangedEnds segments) (i j : Nat) :
    ∀ edit ∈ (walk edits i j segments).head?, edit.step ≠ .keep := by
  intro edit hedit hkeep
  rw [← ofRuns_walk] at hedit
  exact absurd ((ofRuns_head h.alternate i j edit hedit).mp hkeep) (by simp)

theorem ChangedEnds.getLast (h : ChangedEnds segments) (i j : Nat) :
    ∀ edit ∈ (walk edits i j segments).getLast?, edit.step ≠ .keep := by
  rcases List.eq_nil_or_concat' segments with rfl | ⟨front, last, rfl⟩
  · simp [walk]
  · cases last with
    | kept lines => exact absurd List.getLast?_concat (h.last lines)
    | changed removed added =>
      have hfilled := h.alternate.filled (.changed removed added) (by simp)
      obtain ⟨hsome, hchange⟩ := changed_edits (i + (olds front).length)
        (j + (news front).length) hfilled
      intro edit hedit
      rw [walk_append, List.getLast?_append_of_ne_nil _ (by simpa [walk] using hsome)] at hedit
      exact hchange edit (List.mem_of_getLast? (by simpa [walk] using hedit))

theorem ChangedEnds.walk_ne_nil (h : ChangedEnds segments) (hsegments : segments ≠ []) (i j : Nat) :
    walk edits i j segments ≠ [] := by
  obtain ⟨halternate, -⟩ := h
  cases halternate with
  | nil => exact absurd rfl hsegments
  | changed hlines _ => simp [walk, (changed_edits i j hlines).1]

theorem Alternate.changedEnds {turn : Bool} {start finish : List α} (h : Alternate turn segments)
    (hstart : LongestStart start (start ++ (olds segments ++ finish))
      (start ++ (news segments ++ finish)))
    (hfinish : LongestEnd finish (olds segments ++ finish) (news segments ++ finish)) :
    ChangedEnds segments where
  alternate := by
    cases h with
    | nil => exact .nil false
    | changed hlines hrest => exact .changed hlines hrest
    | @kept lines rest hlines hrest =>
      obtain ⟨line, more, rfl⟩ := List.exists_cons_of_ne_nil hlines
      exact absurd rfl hstart.next_ne
  last lines hlast := by
    obtain ⟨front, rfl⟩ := List.getLast?_eq_some_iff.mp hlast
    obtain ⟨more, line, rfl⟩ := (List.eq_nil_or_concat' lines).resolve_left
      (h.filled (.kept lines) (by simp))
    simp only [olds, news, List.flatMap_append, List.flatMap_singleton, old, new,
      ← List.append_assoc] at hfinish
    exact hfinish.last_ne rfl

end Segment

variable [DecidableEq α]

theorem editScript_between (old new : List α) :
    ∃ start segments finish, LongestStart start old new ∧
      LongestEnd finish (old.drop start.length) (new.drop start.length) ∧
      old = start ++ (olds segments ++ finish) ∧ new = start ++ (news segments ++ finish) ∧
      ChangedEnds segments ∧ (segments = [] → finish = []) ∧
      editScript old new = walk edits 0 0 (unchanged start ++ (segments ++ unchanged finish)) := by
  obtain ⟨start, o, n, finish, rfl, rfl, hstart, hfinish, hsteps⟩ := editSteps_middle old new
  obtain ⟨middle, hmiddle, hedits, -⟩ := Search.steps_cheapest o.toArray n.toArray
  obtain ⟨turn, segments, hruns, rfl, rfl, halternate⟩ := runs_segments hedits
  have hlongest : LongestStart start (start ++ (olds segments ++ finish))
      (start ++ (news segments ++ finish)) :=
    ⟨List.prefix_append .., List.prefix_append .., fun other hold hnew =>
      hstart ▸ commonStart_longest hold hnew⟩
  have hlongest' : LongestEnd finish (olds segments ++ finish) (news segments ++ finish) :=
    ⟨List.suffix_append .., List.suffix_append .., fun other hold hnew =>
      hfinish ▸ commonEnd_longest hold hnew⟩
  have hfirst := hlongest.head_ne_keep hedits
  have hlast := hlongest'.getLast_ne_keep hedits
  have hnone : olds segments = [] → news segments = [] → finish = [] := by
    intro hold hnew
    rw [hold, hnew] at hlongest
    exact hlongest.finish_nil
  refine ⟨start, segments, finish, hlongest, by simpa using hlongest', rfl, rfl,
    halternate.changedEnds hlongest hlongest', ?_, ?_⟩
  · rintro rfl
    exact hnone rfl rfl
  · have hempty : middle = [] → finish.length = 0 := by
      rintro rfl
      obtain rfl := List.map_eq_nil_iff.mp hruns.symm
      rw [hnone rfl rfl, List.length_nil]
    rw [editScript, editScript?_steps, hsteps, hmiddle, Option.map_some, Option.map_some,
      Option.getD_some, Script.ofSteps, List.append_assoc, runs_between _ _ hfirst hlast hempty,
      runs_keep, runs_keep, hruns, ← List.map_append, ← List.map_append, ofRuns_walk]

/-- The first operation keeps all that both sequences have in common at the start, and the last one
all that they have in common at the end behind it. Where there is nothing in common at an end, the
script changes something there. -/
theorem editScript_ends (old new : List α) :
    ∃ start finish, LongestStart start old new ∧
      LongestEnd finish (old.drop start.length) (new.drop start.length) ∧
      editScript? old new = some (editScript old new) ∧
      (0 < start.length → (editScript old new).head? =
        some (.equal ⟨0, start.length⟩ ⟨0, start.length⟩)) ∧
      (start.length = 0 → ∀ i j, (editScript old new).head? ≠ some (.equal i j)) ∧
      (0 < finish.length → (editScript old new).getLast? =
        some (.equal ⟨(old.length : Int) - finish.length, old.length⟩
          ⟨(new.length : Int) - finish.length, new.length⟩)) ∧
      (finish.length = 0 → old ≠ new → ∀ i j, (editScript old new).getLast? ≠ some (.equal i j)) := by
  obtain ⟨start, segments, finish, hstart, hfinish, rfl, rfl, hends, hnone, hscript⟩ :=
    editScript_between old new
  have hsome := (editScript_shortest (start ++ (olds segments ++ finish))
    (start ++ (news segments ++ finish))).1
  rw [walk_append, walk_append, unchanged_olds, unchanged_news, Nat.zero_add] at hscript
  refine ⟨start, finish, hstart, hfinish, hsome, fun hpos => ?_, fun hzero i j => ?_,
    fun hpos => ?_, fun hzero hne i j => ?_⟩
  · rw [hscript, walk_unchanged 0 0 (List.ne_nil_of_length_pos hpos)]
    simp [Span.ofSize]
  · obtain rfl := List.length_eq_zero_iff.mp hzero
    rw [hscript]
    by_cases hsegments : segments = []
    · simp [unchanged, hsegments, hnone hsegments, walk]
    · have hmiddle := hends.walk_ne_nil hsegments 0 0
      simp only [unchanged, if_true, walk, List.nil_append, List.length_nil]
      rw [List.head?_append_of_ne_nil _ hmiddle]
      exact fun hhead => hends.head 0 0 _ hhead rfl
  · rw [hscript, walk_unchanged _ _ (List.ne_nil_of_length_pos hpos), ← List.append_assoc,
      List.getLast?_concat]
    simp only [Span.ofSize, List.length_append, Option.some.injEq, Edit.equal.injEq, Span.mk.injEq]
    omega
  · obtain rfl := List.length_eq_zero_iff.mp hzero
    have hsegments : segments ≠ [] := by
      rintro rfl
      exact hne rfl
    have hmiddle := hends.walk_ne_nil hsegments start.length start.length
    rw [hscript, show unchanged ([] : List α) = [] from rfl, walk, List.append_nil,
      List.getLast?_append_of_ne_nil _ hmiddle]
    exact fun hlast => hends.getLast _ _ _ hlast rfl

end ReviewDiff
