import ReviewDiff.Proofs.Diff.Validity

/-!
# Runs with their lines

A segment is a run of steps together with the lines it keeps or changes. Steps between two sequences
cut both of them into segments that take turns, kept lines and changed ones, and the script of the
steps is valid and in canonical form because of that.
-/

set_option autoImplicit false

namespace ReviewDiff

inductive Segment (α : Type) where
  | kept (lines : List α)
  | changed (removed added : List α)

namespace Segment

variable {α : Type}

def old : Segment α → List α
  | .kept lines => lines
  | .changed removed _ => removed

def new : Segment α → List α
  | .kept lines => lines
  | .changed _ added => added

def run : Segment α → Run
  | .kept lines => .kept lines.length
  | .changed removed added => .changed removed.length added.length

/-- The old side of segments. -/
def olds (segments : List (Segment α)) : List α := segments.flatMap old

def news (segments : List (Segment α)) : List α := segments.flatMap new

@[simp] theorem olds_nil : olds ([] : List (Segment α)) = [] := rfl

@[simp] theorem news_nil : news ([] : List (Segment α)) = [] := rfl

@[simp] theorem olds_cons (segment : Segment α) (rest : List (Segment α)) :
    olds (segment :: rest) = segment.old ++ olds rest := List.flatMap_cons

@[simp] theorem news_cons (segment : Segment α) (rest : List (Segment α)) :
    news (segment :: rest) = segment.new ++ news rest := List.flatMap_cons

/-- Kept and changed lines take turns and no segment is empty. Whose turn is first, kept lines or
changed ones, is told by the truth value. -/
inductive Alternate : Bool → List (Segment α) → Prop
  | nil (turn : Bool) : Alternate turn []
  | kept {lines : List α} {rest : List (Segment α)} (hlines : lines ≠ [])
      (hrest : Alternate false rest) : Alternate true (.kept lines :: rest)
  | changed {removed added : List α} {rest : List (Segment α)}
      (hlines : removed ≠ [] ∨ added ≠ []) (hrest : Alternate true rest) :
      Alternate false (.changed removed added :: rest)

end Segment

open Segment

variable {α : Type}

namespace Segment

/-- The segments after one more step, with its line, in front. -/
def prepend (line : α) : Step → List (Segment α) → List (Segment α)
  | .keep, .kept lines :: rest => .kept (line :: lines) :: rest
  | .keep, rest => .kept [line] :: rest
  | .delete, .changed removed added :: rest => .changed (line :: removed) added :: rest
  | .delete, rest => .changed [line] [] :: rest
  | .insert, .changed removed added :: rest => .changed removed (line :: added) :: rest
  | .insert, rest => .changed [] [line] :: rest

theorem prepend_run (line : α) (step : Step) (segments : List (Segment α)) :
    (prepend line step segments).map run = step.onto (segments.map run) := by
  cases step <;> rcases segments with _ | ⟨_ | _, rest⟩ <;> rfl

theorem prepend_olds (line : α) (step : Step) (segments : List (Segment α)) :
    olds (prepend line step segments) =
      (if step = .insert then [] else [line]) ++ olds segments := by
  cases step <;> rcases segments with _ | ⟨_ | _, rest⟩ <;> rfl

theorem prepend_news (line : α) (step : Step) (segments : List (Segment α)) :
    news (prepend line step segments) =
      (if step = .delete then [] else [line]) ++ news segments := by
  cases step <;> rcases segments with _ | ⟨_ | _, rest⟩ <;> rfl

/-- Kept and changed lines still take turns, since a step goes to a segment of its own kind. -/
theorem prepend_alternate (line : α) (step : Step) {turn : Bool} {segments : List (Segment α)}
    (h : Alternate turn segments) : Alternate (step = .keep) (prepend line step segments) := by
  cases step with
  | keep =>
    cases h with
    | nil => exact .kept (by simp) (.nil false)
    | kept hlines hrest => exact .kept (by simp) hrest
    | changed hlines hrest => exact .kept (by simp) (.changed hlines hrest)
  | delete =>
    cases h with
    | nil => exact .changed (by simp) (.nil true)
    | kept hlines hrest => exact .changed (by simp) (.kept hlines hrest)
    | changed hlines hrest => exact .changed (by simp) hrest
  | insert =>
    cases h with
    | nil => exact .changed (by simp) (.nil true)
    | kept hlines hrest => exact .changed (by simp) (.kept hlines hrest)
    | changed hlines hrest => exact .changed (by simp) hrest

end Segment

theorem runs_segments {steps : List Step} {old new : List α} (h : Step.Edits steps old new) :
    ∃ turn segments, Step.runs steps = segments.map run ∧ olds segments = old ∧
      news segments = new ∧ Alternate turn segments := by
  induction h with
  | nil => exact ⟨true, [], rfl, rfl, rfl, .nil true⟩
  | keep line _ ih =>
    obtain ⟨turn, segments, hruns, rfl, rfl, halt⟩ := ih
    exact ⟨_, prepend line .keep segments, by rw [Step.runs, hruns, prepend_run], prepend_olds ..,
      prepend_news .., prepend_alternate line .keep halt⟩
  | delete line _ ih =>
    obtain ⟨turn, segments, hruns, rfl, rfl, halt⟩ := ih
    exact ⟨_, prepend line .delete segments, by rw [Step.runs, hruns, prepend_run], prepend_olds ..,
      prepend_news .., prepend_alternate line .delete halt⟩
  | insert line _ ih =>
    obtain ⟨turn, segments, hruns, rfl, rfl, halt⟩ := ih
    exact ⟨_, prepend line .insert segments, by rw [Step.runs, hruns, prepend_run], prepend_olds ..,
      prepend_news .., prepend_alternate line .insert halt⟩

namespace Segment

def unchanged (lines : List α) : List (Segment α) :=
  if lines = [] then [] else [.kept lines]

theorem unchanged_alternate (lines : List α) : Alternate true (unchanged lines) := by
  rw [unchanged]
  split
  · exact .nil true
  · exact .kept ‹_› (.nil false)

theorem unchanged_olds (lines : List α) : olds (unchanged lines) = lines := by
  by_cases h : lines = [] <;> simp [unchanged, h, old]

theorem unchanged_news (lines : List α) : news (unchanged lines) = lines := by
  by_cases h : lines = [] <;> simp [unchanged, h, new]

end Segment

theorem runs_keep (lines : List α) :
    Step.runs (List.replicate lines.length .keep) = (unchanged lines).map run := by
  induction lines with
  | nil => rfl
  | cons line lines ih =>
    rw [List.length_cons, List.replicate_succ, Step.runs, ih]
    by_cases h : lines = [] <;> simp [unchanged, h, run, Step.onto]

namespace Run

/-- How many lines a run deletes or inserts. -/
def cost : Run → Nat
  | .kept _ => 0
  | .changed deleted inserted => deleted + inserted

def total : List Run → Nat
  | [] => 0
  | run :: rest => run.cost + total rest

end Run

theorem onto_total (step : Step) (runs : List Run) :
    Run.total (step.onto runs) = Step.cost [step] + Run.total runs := by
  cases step <;> rcases runs with _ | ⟨⟨n⟩ | ⟨d, n⟩, rest⟩ <;>
    simp [Step.onto, Run.total, Run.cost] <;> omega

theorem runs_total (steps : List Step) : Run.total (Step.runs steps) = Step.cost steps := by
  induction steps with
  | nil => rfl
  | cons step rest ih =>
    rw [Step.runs, onto_total, ih, ← Step.cost_append, List.singleton_append]

theorem ofRuns_cost (i j : Nat) (runs : List Run) :
    Script.cost (Script.ofRuns i j runs) = Run.total runs := by
  induction runs generalizing i j with
  | nil => rfl
  | cons run rest ih =>
    cases run with
    | kept n =>
      simpa [Script.ofRuns, Script.cost, Edit.cost, Run.total, Run.cost] using ih (i+n) (j+n)
    | changed d n =>
      have hrest := ih (i+d) (j+n)
      by_cases hd : d = 0 <;> by_cases hn : n = 0 <;>
        simp [Script.ofRuns, Script.cost, Edit.cost, Run.total, Run.cost, hd, hn] at hrest ⊢ <;>
        omega

theorem ofSteps_cost (steps : List Step) :
    Script.cost (Script.ofSteps steps) = Step.cost steps := by
  rw [Script.ofSteps, ofRuns_cost, runs_total]

theorem ofRuns_oldSpans (i j d n : Nat) (rest : List Run) :
    Script.oldSpans (Script.ofRuns i j (.changed d n :: rest)) =
      (if d = 0 then [] else [.ofSize i d]) ++
        Script.oldSpans (Script.ofRuns (i+d) (j+n) rest) := by
  by_cases hd : d = 0 <;> by_cases hn : n = 0 <;> simp [Script.ofRuns, hd, hn]

theorem ofRuns_newSpans (i j d n : Nat) (rest : List Run) :
    Script.newSpans (Script.ofRuns i j (.changed d n :: rest)) =
      (if n = 0 then [] else [.ofSize j n]) ++
        Script.newSpans (Script.ofRuns (i+d) (j+n) rest) := by
  by_cases hd : d = 0 <;> by_cases hn : n = 0 <;> simp [Script.ofRuns, hd, hn]

theorem tile_ofSize {i size : Nat} {stop : Int} {rest : List Span}
    (h : Span.Tile ((i + size : Nat) : Int) stop rest) :
    Span.Tile i stop ((if size = 0 then [] else [.ofSize i size]) ++ rest) := by
  by_cases hsize : size = 0
  · simpa [hsize] using h
  · rw [if_neg hsize]
    exact ⟨rfl, Span.ofSize_le i size, h⟩

theorem ofRuns_old_tile (i j : Nat) (segments : List (Segment α)) :
    Span.Tile i ((i + (olds segments).length : Nat) : Int)
      (Script.oldSpans (Script.ofRuns i j (segments.map run))) := by
  induction segments generalizing i j with
  | nil => rfl
  | cons segment rest ih =>
    rw [olds_cons, List.length_append, ← Nat.add_assoc]
    cases segment with
    | kept lines => exact ⟨rfl, Span.ofSize_le _ _, ih (i + lines.length) (j + lines.length)⟩
    | changed removed added =>
      rw [List.map_cons, run, ofRuns_oldSpans]
      exact tile_ofSize (ih (i + removed.length) (j + added.length))

theorem ofRuns_new_tile (i j : Nat) (segments : List (Segment α)) :
    Span.Tile j ((j + (news segments).length : Nat) : Int)
      (Script.newSpans (Script.ofRuns i j (segments.map run))) := by
  induction segments generalizing i j with
  | nil => rfl
  | cons segment rest ih =>
    rw [news_cons, List.length_append, ← Nat.add_assoc]
    cases segment with
    | kept lines => exact ⟨rfl, Span.ofSize_le _ _, ih (i + lines.length) (j + lines.length)⟩
    | changed removed added =>
      rw [List.map_cons, run, ofRuns_newSpans]
      exact tile_ofSize (ih (i + removed.length) (j + added.length))

theorem ofRuns_pairs (before before' : List α) (segments : List (Segment α)) {s t : Span}
    (h : .equal s t ∈ Script.ofRuns before.length before'.length (segments.map run)) :
    s.size = t.size ∧ s.of (before ++ olds segments) = t.of (before' ++ news segments) := by
  induction segments generalizing before before' with
  | nil => simp [Script.ofRuns] at h
  | cons segment rest ih =>
    have hrest := ih (before ++ segment.old) (before' ++ segment.new)
    rw [List.length_append, List.length_append, List.append_assoc, List.append_assoc] at hrest
    rw [olds_cons, news_cons]
    cases segment with
    | kept lines =>
      rcases List.mem_cons.mp h with heq | hmem
      · obtain ⟨rfl, rfl⟩ := Edit.equal.inj heq
        exact ⟨by simp, (Span.of_middle ..).trans (Span.of_middle ..).symm⟩
      · exact hrest hmem
    | changed removed added =>
      apply hrest
      by_cases hd : removed.length = 0 <;> by_cases hn : added.length = 0 <;>
        simpa [Script.ofRuns, run, old, new, hd, hn] using h

theorem ofRuns_between (segments : List (Segment α)) :
    (Script.ofRuns 0 0 (segments.map run)).Between (olds segments) (news segments) where
  old_tile := by simpa using ofRuns_old_tile 0 0 segments
  new_tile := by simpa using ofRuns_new_tile 0 0 segments
  pairs s t h := ofRuns_pairs [] [] segments h

theorem ofRuns_head {turn : Bool} {segments : List (Segment α)} (h : Alternate turn segments)
    (i j : Nat) : ∀ edit ∈ (Script.ofRuns i j (segments.map run)).head?,
      edit.step = .keep ↔ turn = true := by
  cases h with
  | nil => simp [Script.ofRuns]
  | kept hlines hrest => simp [Script.ofRuns, run, Edit.step]
  | @changed removed added rest hlines hrest =>
    by_cases hd : removed.length = 0 <;> by_cases hn : added.length = 0 <;>
      simp_all [Script.ofRuns, run, Edit.step]

theorem ofRuns_order {turn : Bool} {segments : List (Segment α)} (h : Alternate turn segments)
    (i j : Nat) : (Script.ofRuns i j (segments.map run)).IsChain
      fun e f => e.step ≠ f.step ∧ ¬ (e.step = .insert ∧ f.step = .delete) := by
  induction h generalizing i j with
  | nil => exact .nil
  | @kept lines rest hlines hrest ih =>
    rw [List.map_cons, run, Script.ofRuns, List.isChain_cons]
    refine ⟨fun edit hedit => ?_, ih _ _⟩
    have hkeep := ofRuns_head hrest _ _ edit hedit
    rw [iff_false_right (by simp)] at hkeep
    exact ⟨fun h => hkeep h.symm, by simp [Edit.step]⟩
  | @changed removed added rest hlines hrest ih =>
    -- What is changed last is followed by kept lines, if by anything.
    have hlast (e : Edit) (he : e.step ≠ .keep) :
        (e :: Script.ofRuns (i + removed.length) (j + added.length) (rest.map run)).IsChain
          fun e f => e.step ≠ f.step ∧ ¬ (e.step = .insert ∧ f.step = .delete) := by
      refine List.isChain_cons.mpr ⟨fun f hf => ?_, ih _ _⟩
      have hkeep : f.step = .keep := (ofRuns_head hrest _ _ f hf).mpr rfl
      rw [hkeep]
      exact ⟨he, by simp⟩
    have hdelete := hlast (.delete (.ofSize i removed.length)) (by simp [Edit.step])
    have hinsert := hlast (.insert (.ofSize j added.length)) (by simp [Edit.step])
    rw [List.map_cons, run, Script.ofRuns]
    by_cases hd : removed.length = 0
    · by_cases hn : added.length = 0
      · simp_all
      · simpa [hd, hn] using hinsert
    · by_cases hn : added.length = 0
      · simpa [hd, hn] using hdelete
      · simp only [hd, hn, if_false, List.cons_append, List.nil_append]
        exact List.isChain_cons_cons.mpr ⟨by simp [Edit.step], hinsert⟩

theorem ofRuns_nonempty {turn : Bool} {segments : List (Segment α)} (h : Alternate turn segments)
    (i j : Nat) : ∀ s ∈ Script.oldSpans (Script.ofRuns i j (segments.map run)) ++
      Script.newSpans (Script.ofRuns i j (segments.map run)), s.start < s.stop := by
  have hsize (i n : Nat) (hn : n ≠ 0) : (Span.ofSize i n).start < (Span.ofSize i n).stop := by
    rw [Span.ofSize_start, Span.ofSize_stop]
    omega
  induction h generalizing i j with
  | nil => simp [Script.ofRuns]
  | @kept lines rest hlines hrest ih =>
    have hne : lines.length ≠ 0 := by simpa using hlines
    intro s hs
    simp only [List.map_cons, run, Script.ofRuns, Script.oldSpans_equal, Script.newSpans_equal,
      List.mem_append, List.mem_cons] at hs
    rcases hs with (rfl | hs) | (rfl | hs)
    · exact hsize i _ hne
    · exact ih _ _ s (List.mem_append_left _ hs)
    · exact hsize j _ hne
    · exact ih _ _ s (List.mem_append_right _ hs)
  | @changed removed added rest hlines hrest ih =>
    intro s hs
    rw [List.map_cons, run, ofRuns_oldSpans, ofRuns_newSpans] at hs
    simp only [List.mem_append] at hs
    rcases hs with (hs | hs) | (hs | hs)
    · split at hs
      · simp at hs
      · rw [List.mem_singleton.mp hs]
        exact hsize i _ ‹_›
    · exact ih _ _ s (List.mem_append_left _ hs)
    · split at hs
      · simp at hs
      · rw [List.mem_singleton.mp hs]
        exact hsize j _ ‹_›
    · exact ih _ _ s (List.mem_append_right _ hs)

theorem ofRuns_canonical {turn : Bool} {segments : List (Segment α)}
    (h : Alternate turn segments) : (Script.ofRuns 0 0 (segments.map run)).Canonical :=
  ⟨ofRuns_nonempty h 0 0, ofRuns_order h 0 0⟩

theorem ofSteps_valid {steps : List Step} {old new : List α} (h : Step.Edits steps old new) :
    (Script.ofSteps steps).Between old new ∧ (Script.ofSteps steps).Canonical := by
  obtain ⟨turn, segments, hruns, rfl, rfl, halt⟩ := runs_segments h
  rw [Script.ofSteps, hruns]
  exact ⟨ofRuns_between segments, ofRuns_canonical halt⟩

end ReviewDiff
