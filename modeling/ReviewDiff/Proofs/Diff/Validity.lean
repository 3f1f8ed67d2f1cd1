import ReviewDiff.Proofs.Diff.Edits

/-!
# What a valid script is

A script leads from one sequence to another when its runs of positions cover each side once and in
order and what it keeps is the same on both. Such a script is as good as steps: it stands for some
of the same cost, and replaying it on the old sequence gives the new one.
-/

set_option autoImplicit false

namespace ReviewDiff

open Step

variable {α : Type}

namespace Span

def of (lines : List α) (s : Span) : List α := (lines.drop s.start.toNat).take s.size

@[simp] theorem ofSize_start (i n : Nat) : (ofSize i n).start = i := rfl

@[simp] theorem ofSize_stop (i n : Nat) : (ofSize i n).stop = (i + n : Nat) := rfl

@[simp] theorem ofSize_size (i n : Nat) : (ofSize i n).size = n := by
  unfold size extent
  rw [ofSize_start, ofSize_stop]
  omega

theorem ofSize_le (i n : Nat) : (ofSize i n).start ≤ (ofSize i n).stop := by
  rw [ofSize_start, ofSize_stop]
  omega

theorem of_middle (before lines rest : List α) :
    (ofSize before.length lines.length).of (before ++ (lines ++ rest)) = lines := by
  simp [of]

def Tile : (start stop : Int) → List Span → Prop
  | start, stop, [] => start = stop
  | start, stop, s :: rest => s.start = start ∧ s.start ≤ s.stop ∧ Tile s.stop stop rest

theorem tile_le {start stop : Int} {spans : List Span} (h : Tile start stop spans) :
    start ≤ stop := by
  induction spans generalizing start with
  | nil => exact Int.le_of_eq h
  | cons s rest ih =>
    obtain ⟨hstart, hle, hrest⟩ := h
    have := ih hrest
    omega

theorem drop_of {s : Span} {i : Nat} (lines : List α) (hstart : s.start = i)
    (hle : s.start ≤ s.stop) :
    lines.drop i = s.of lines ++ lines.drop (i + s.size) ∧ s.stop = (i + s.size : Nat) := by
  refine ⟨?_, by unfold size extent; omega⟩
  rw [of, hstart, Int.toNat_natCast, ← List.drop_drop, List.take_append_drop]

theorem length_of {s : Span} {i : Nat} {lines : List α} (hstart : s.start = i)
    (hle : s.stop ≤ lines.length) : (s.of lines).length = s.size := by
  rw [of, List.length_take, List.length_drop]
  unfold size extent
  omega

theorem tile_of {lines : List α} {i : Nat} {spans : List Span}
    (h : Tile i lines.length spans) : spans.flatMap (of lines) = lines.drop i := by
  induction spans generalizing i with
  | nil =>
    rw [List.drop_eq_nil_of_le (by simpa [Tile] using Int.ge_of_eq h)]
    rfl
  | cons s rest ih =>
    obtain ⟨hstart, hle, hrest⟩ := h
    obtain ⟨hdrop, hstop⟩ := drop_of lines hstart hle
    rw [List.flatMap_cons, ih (hstop ▸ hrest), hdrop]

end Span

namespace Edit

def step : Edit → Step
  | .equal .. => .keep
  | .delete .. => .delete
  | .insert .. => .insert

def old? : Edit → Option Span
  | .equal old _ => some old
  | .delete old => some old
  | .insert _ => none

def new? : Edit → Option Span
  | .equal _ new => some new
  | .delete _ => none
  | .insert new => some new

/-- How many lines an operation deletes or inserts. -/
def cost : Edit → Nat
  | .equal .. => 0
  | .delete old => old.size
  | .insert new => new.size

end Edit

namespace Script

def oldSpans (script : Script) : List Span := script.filterMap Edit.old?

def newSpans (script : Script) : List Span := script.filterMap Edit.new?

@[simp] theorem oldSpans_nil : oldSpans [] = [] := rfl

@[simp] theorem oldSpans_equal (i j : Span) (rest : Script) :
    oldSpans (.equal i j :: rest) = i :: oldSpans rest := rfl

@[simp] theorem oldSpans_delete (i : Span) (rest : Script) :
    oldSpans (.delete i :: rest) = i :: oldSpans rest := rfl

@[simp] theorem oldSpans_insert (j : Span) (rest : Script) :
    oldSpans (.insert j :: rest) = oldSpans rest := rfl

@[simp] theorem newSpans_nil : newSpans [] = [] := rfl

@[simp] theorem newSpans_equal (i j : Span) (rest : Script) :
    newSpans (.equal i j :: rest) = j :: newSpans rest := rfl

@[simp] theorem newSpans_delete (i : Span) (rest : Script) :
    newSpans (.delete i :: rest) = newSpans rest := rfl

@[simp] theorem newSpans_insert (j : Span) (rest : Script) :
    newSpans (.insert j :: rest) = j :: newSpans rest := rfl

def cost : Script → Nat
  | [] => 0
  | edit :: rest => edit.cost + cost rest

/-- The script leads from the old sequence to the new one. -/
structure Between (old new : List α) (script : Script) : Prop where
  old_tile : Span.Tile 0 old.length script.oldSpans
  new_tile : Span.Tile 0 new.length script.newSpans
  pairs : ∀ i j : Span, .equal i j ∈ script → i.size = j.size ∧ i.of old = j.of new

/-- No run is empty, no two neighbours are of one kind, and of a deletion and an insertion side by
side the deletion comes first. -/
structure Canonical (script : Script) : Prop where
  nonempty : ∀ s ∈ script.oldSpans ++ script.newSpans, s.start < s.stop
  order : script.IsChain fun e f => e.step ≠ f.step ∧ ¬ (e.step = .insert ∧ f.step = .delete)

/-- What the script makes of the old sequence. Lines that are kept are taken from there. -/
def replay (old new : List α) (script : Script) : List α :=
  script.flatMap fun
    | .equal i _ => i.of old
    | .delete _ => []
    | .insert j => j.of new

theorem replay_newSpans {old new : List α} {script : Script}
    (hpairs : ∀ i j : Span, .equal i j ∈ script → i.size = j.size ∧ i.of old = j.of new) :
    script.replay old new = script.newSpans.flatMap (Span.of new) := by
  induction script with
  | nil => rfl
  | cons edit rest ih =>
    have hrest : replay old new rest = (newSpans rest).flatMap (Span.of new) :=
      ih fun i j h => hpairs i j (List.mem_cons_of_mem edit h)
    rw [replay, List.flatMap_cons, ← replay, hrest]
    cases edit with
    | equal i j => simp [(hpairs i j (List.mem_cons_self ..)).2]
    | delete i => simp
    | insert j => simp

theorem between_replay {old new : List α} {script : Script} (h : script.Between old new) :
    script.replay old new = new := by
  rw [replay_newSpans h.pairs, Span.tile_of (i := 0) h.new_tile, List.drop_zero]

theorem tiles_edits {old new : List α} {script : Script} {i j : Nat}
    (hold : Span.Tile i old.length script.oldSpans)
    (hnew : Span.Tile j new.length script.newSpans)
    (hpairs : ∀ s t : Span, .equal s t ∈ script → s.size = t.size ∧ s.of old = t.of new) :
    ∃ steps, Edits steps (old.drop i) (new.drop j) ∧ Step.cost steps = cost script := by
  induction script generalizing i j with
  | nil =>
    have hi : [] = old.drop i := Span.tile_of hold
    have hj : [] = new.drop j := Span.tile_of hnew
    exact ⟨[], by rw [← hi, ← hj]; exact .nil, rfl⟩
  | cons edit rest ih =>
    have hpairs' : ∀ s t : Span, .equal s t ∈ rest → s.size = t.size ∧ s.of old = t.of new :=
      fun s t h => hpairs s t (List.mem_cons_of_mem edit h)
    cases edit with
    | equal s t =>
      obtain ⟨hstart, hle, hold⟩ := hold
      obtain ⟨hstart', hle', hnew⟩ := hnew
      obtain ⟨hdrop, hstop⟩ := Span.drop_of old hstart hle
      obtain ⟨hdrop', hstop'⟩ := Span.drop_of new hstart' hle'
      obtain ⟨steps, hsteps, hcost⟩ := ih (hstop ▸ hold) (hstop' ▸ hnew) hpairs'
      have hsame := (hpairs s t (List.mem_cons_self ..)).2
      refine ⟨List.replicate (s.of old).length .keep ++ steps, ?_, ?_⟩
      · rw [hdrop, hdrop', ← hsame]
        exact edits_append (edits_keep _) hsteps
      · simp [hcost, cost, Edit.cost]
    | delete s =>
      obtain ⟨hstart, hle, hold⟩ := hold
      obtain ⟨hdrop, hstop⟩ := Span.drop_of old hstart hle
      obtain ⟨steps, hsteps, hcost⟩ := ih (hstop ▸ hold) hnew hpairs'
      refine ⟨List.replicate (s.of old).length .delete ++ steps, ?_, ?_⟩
      · rw [hdrop]
        exact edits_append (edits_delete _) hsteps
      · simp [hcost, cost, Edit.cost, Span.length_of hstart (Span.tile_le hold)]
    | insert t =>
      obtain ⟨hstart, hle, hnew⟩ := hnew
      obtain ⟨hdrop, hstop⟩ := Span.drop_of new hstart hle
      obtain ⟨steps, hsteps, hcost⟩ := ih hold (hstop ▸ hnew) hpairs'
      refine ⟨List.replicate (t.of new).length .insert ++ steps, ?_, ?_⟩
      · rw [hdrop]
        exact edits_append (edits_insert _) hsteps
      · simp [hcost, cost, Edit.cost, Span.length_of hstart (Span.tile_le hnew)]

theorem between_edits {old new : List α} {script : Script} (h : script.Between old new) :
    ∃ steps, Edits steps old new ∧ Step.cost steps = cost script :=
  tiles_edits (i := 0) (j := 0) h.old_tile h.new_tile h.pairs

end Script

end ReviewDiff
