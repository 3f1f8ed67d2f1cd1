import ReviewDiff.Diff.Hunk
import ReviewDiff.Proofs.Diff.Segments

/-!
# The lines that segments show

Where `i` lines of the old file and `j` lines of the new one stand before some segments, their
output is determined by their own lines. It has all lines of each side in order, numbered without a
gap, and it is what the complete output of their script shows.
-/

set_option autoImplicit false

namespace ReviewDiff

/-- Unchanged lines, behind `i` lines of the old file and `j` lines of the new one. -/
def contexts (i j : Nat) (texts : List Points) : List DiffLine :=
  texts.mapIdx fun t text => .context text (i + t + 1 : Nat) (j + t + 1 : Nat)

def removals (i : Nat) (texts : List Points) : List DiffLine :=
  texts.mapIdx fun t text => .removed text (i + t + 1 : Nat)

def additions (j : Nat) (texts : List Points) : List DiffLine :=
  texts.mapIdx fun t text => .added text (j + t + 1 : Nat)

@[simp] theorem contexts_nil (i j : Nat) : contexts i j [] = [] := rfl

@[simp] theorem contexts_length (i j : Nat) (texts : List Points) :
    (contexts i j texts).length = texts.length := List.length_mapIdx

@[simp] theorem removals_length (i : Nat) (texts : List Points) :
    (removals i texts).length = texts.length := List.length_mapIdx

@[simp] theorem additions_length (j : Nat) (texts : List Points) :
    (additions j texts).length = texts.length := List.length_mapIdx

theorem contexts_append (i j : Nat) (texts rest : List Points) :
    contexts i j (texts ++ rest) =
      contexts i j texts ++ contexts (i + texts.length) (j + texts.length) rest := by
  rw [contexts, List.mapIdx_append]
  simp only [contexts, Nat.add_assoc, Nat.add_comm texts.length]

namespace Segment

variable {α β : Type}

/-- What `f` makes of each segment and the numbers of lines before it, one after the other. -/
def walk (f : Nat → Nat → Segment α → List β) : (i j : Nat) → List (Segment α) → List β
  | _, _, [] => []
  | i, j, segment :: rest =>
    f i j segment ++ walk f (i + segment.old.length) (j + segment.new.length) rest

theorem walk_append (f : Nat → Nat → Segment α → List β) (i j : Nat)
    (segments rest : List (Segment α)) :
    walk f i j (segments ++ rest) =
      walk f i j segments ++ walk f (i + (olds segments).length) (j + (news segments).length) rest := by
  induction segments generalizing i j with
  | nil => rfl
  | cons segment segments ih =>
    simp only [List.cons_append, walk, ih, olds_cons, news_cons, List.length_append,
      List.append_assoc, Nat.add_assoc]

/-- The lines of one segment. -/
def lines (i j : Nat) : Segment Points → List DiffLine
  | .kept texts => contexts i j texts
  | .changed removed added => removals i removed ++ additions j added

/-- The lines of segments. -/
def output (i j : Nat) (segments : List (Segment Points)) : List DiffLine :=
  walk lines i j segments

def edits (i j : Nat) : Segment α → List Edit
  | .kept texts => [.equal (.ofSize i texts.length) (.ofSize j texts.length)]
  | .changed removed added =>
    (if removed.length = 0 then [] else [.delete (.ofSize i removed.length)]) ++
      (if added.length = 0 then [] else [.insert (.ofSize j added.length)])

theorem ofRuns_walk (i j : Nat) (segments : List (Segment α)) :
    Script.ofRuns i j (segments.map run) = walk edits i j segments := by
  induction segments generalizing i j with
  | nil => rfl
  | cons segment rest ih =>
    cases segment with
    | kept texts => simp [Script.ofRuns, run, walk, edits, ih, old, new]
    | changed removed added => simp [Script.ofRuns, run, walk, edits, ih, old, new]

end Segment

open Segment

inductive DiffSide where
  | old
  | new
  deriving DecidableEq, Repr

def DiffSide.other : DiffSide → DiffSide
  | .old => .new
  | .new => .old

def DiffLine.isOn (side : DiffSide) : DiffLine → Bool
  | .context .. => true
  | .removed .. => side = .old
  | .added .. => side = .new
  | .header _ => false

def sideTexts (side : DiffSide) (lines : List DiffLine) : List Points :=
  (lines.filter (·.isOn side)).map (·.content)

/-- The file of a side that segments hold. -/
def Segment.file {α : Type} : DiffSide → List (Segment α) → List α
  | .old => olds
  | .new => news

@[simp] theorem sideTexts_append (side : DiffSide) (lines rest : List DiffLine) :
    sideTexts side (lines ++ rest) = sideTexts side lines ++ sideTexts side rest := by
  simp [sideTexts]

theorem sideTexts_mapIdx (side : DiffSide) (on : Bool) {f : Nat → Points → DiffLine}
    (hon : ∀ t text, (f t text).isOn side = on) (hf : ∀ t text, (f t text).content = text)
    (texts : List Points) : sideTexts side (texts.mapIdx f) = if on then texts else [] := by
  have hall : ∀ line ∈ texts.mapIdx f, line.isOn side = on := by
    intro line hline
    obtain ⟨t, ht, rfl⟩ := List.mem_mapIdx.mp hline
    exact hon t texts[t]
  have hcontent : (texts.mapIdx f).map (·.content) = texts :=
    List.ext_getElem (by simp) (by simp [hf])
  rw [sideTexts, List.filter_congr hall]
  cases on <;> simp [hcontent]

@[simp] theorem sideTexts_contexts (side : DiffSide) (i j : Nat) (texts : List Points) :
    sideTexts side (contexts i j texts) = texts :=
  sideTexts_mapIdx side true (fun _ _ => rfl) (fun _ _ => rfl) texts

theorem sideTexts_removals (side : DiffSide) (i : Nat) (texts : List Points) :
    sideTexts side (removals i texts) = if side = .old then texts else [] := by
  rw [removals, sideTexts_mapIdx side (side = .old) (fun _ _ => rfl) (fun _ _ => rfl)]
  simp

theorem sideTexts_additions (side : DiffSide) (j : Nat) (texts : List Points) :
    sideTexts side (additions j texts) = if side = .new then texts else [] := by
  rw [additions, sideTexts_mapIdx side (side = .new) (fun _ _ => rfl) (fun _ _ => rfl)]
  simp

theorem sideTexts_output (side : DiffSide) (i j : Nat) (segments : List (Segment Points)) :
    sideTexts side (output i j segments) = file side segments := by
  induction segments generalizing i j with
  | nil => cases side <;> rfl
  | cons segment rest ih =>
    have hrest := ih (i + segment.old.length) (j + segment.new.length)
    rw [output, walk, ← output, sideTexts_append, hrest]
    cases side <;> cases segment <;>
      simp [lines, file, old, new, sideTexts_removals, sideTexts_additions]

theorem lineAt_middle (before texts after : List Points) {t : Nat} (ht : t < texts.length) :
    lineAt (before ++ (texts ++ after)).toArray (before.length + t : Nat) = .ok texts[t] := by
  have hat : (before ++ (texts ++ after)).toArray[before.length + t]? = some texts[t] := by
    rw [List.getElem?_toArray, List.getElem?_append_right (by omega),
      List.getElem?_append_left (by omega), Nat.add_sub_cancel_left, List.getElem?_eq_getElem ht]
  have hneg : ¬ ((before.length + t : Nat) : Int) < 0 := by omega
  rw [lineAt]
  simp only [hneg, if_false, Int.toNat_natCast, hat]

theorem collect_ok {f : Int → Except PositionFault DiffLine} {lines : List DiffLine}
    {offset : Int} (h : ∀ t (ht : t < lines.length), f (offset + t) = .ok lines[t]) :
    collect f lines.length offset = .ok lines := by
  induction lines generalizing offset with
  | nil => rfl
  | cons line rest ih =>
    have hline : f offset = .ok line := by
      have hfirst := h 0 (by simp)
      rwa [Int.natCast_zero, Int.add_zero] at hfirst
    have hrest : collect f rest.length (offset+1) = .ok rest := ih fun t ht => by
      have hnext := h (t+1) (by simpa using ht)
      rwa [show offset + ((t+1 : Nat) : Int) = offset + 1 + t by omega] at hnext
    rw [List.length_cons, collect, hline]
    change (collect f rest.length (offset+1) >>= fun rest => .ok (line :: rest)) = _
    rw [hrest]
    rfl

theorem contextLines_middle (before texts after : List Points) (i : Nat) :
    contextLines (before ++ (texts ++ after)).toArray i before.length texts.length =
      .ok (contexts i before.length texts) := by
  rw [contextLines, ← contexts_length i before.length texts]
  refine collect_ok fun t ht => ?_
  rw [contexts_length] at ht
  rw [show (before.length : Int) + (0 + (t : Int)) = (before.length + t : Nat) by omega,
    lineAt_middle before texts after ht]
  simp only [contexts, List.getElem_mapIdx]
  change Except.ok _ = Except.ok _
  congr 2
  omega

theorem collect_middle (make : Points → Int → DiffLine) (before texts after : List Points) :
    collect (fun i => do return make (← lineAt (before ++ (texts ++ after)).toArray i) (i + 1))
        texts.length before.length =
      .ok (texts.mapIdx fun t text => make text (before.length + t + 1 : Nat)) := by
  have hlen : (texts.mapIdx fun t text => make text (before.length + t + 1 : Nat)).length =
      texts.length := List.length_mapIdx
  rw [← hlen]
  refine collect_ok fun t ht => ?_
  rw [hlen] at ht
  rw [show (before.length : Int) + (t : Int) = (before.length + t : Nat) by omega,
    lineAt_middle before texts after ht, List.getElem_mapIdx]
  rfl

theorem removedLines_middle (before texts after : List Points) :
    removedLines (before ++ (texts ++ after)).toArray (.ofSize before.length texts.length) =
      .ok (removals before.length texts) := by
  rw [removedLines, Span.ofSize_size, Span.ofSize_start]
  exact collect_middle .removed before texts after

theorem addedLines_middle (before texts after : List Points) :
    addedLines (before ++ (texts ++ after)).toArray (.ofSize before.length texts.length) =
      .ok (additions before.length texts) := by
  rw [addedLines, Span.ofSize_size, Span.ofSize_start]
  exact collect_middle .added before texts after

def Shows {β : Type} (f : β → Except PositionFault (List DiffLine)) (items : List β)
    (lines : List DiffLine) : Prop :=
  ∃ parts, items.mapM f = .ok parts ∧ parts.flatten = lines

variable {β : Type} {f : β → Except PositionFault (List DiffLine)}

theorem shows_single {item : β} {lines : List DiffLine} (h : f item = .ok lines) :
    Shows f [item] lines := by
  refine ⟨[lines], ?_, by simp⟩
  rw [List.mapM_cons, h]
  rfl

theorem shows_append {items items' : List β} {lines lines' : List DiffLine}
    (h : Shows f items lines) (h' : Shows f items' lines') :
    Shows f (items ++ items') (lines ++ lines') := by
  obtain ⟨parts, hparts, rfl⟩ := h
  obtain ⟨parts', hparts', rfl⟩ := h'
  refine ⟨parts ++ parts', ?_, List.flatten_append⟩
  rw [List.mapM_append, hparts, hparts']
  rfl

theorem shows_walk {g : Nat → Nat → Segment Points → List β} (oldFile newFile : List Points)
    (hg : ∀ (before after before' after' : List Points) (segment : Segment Points),
      oldFile = before ++ (segment.old ++ after) →
      newFile = before' ++ (segment.new ++ after') →
      Shows f (g before.length before'.length segment)
        (segment.lines before.length before'.length))
    (before after before' after' : List Points) (segments : List (Segment Points))
    (hold : oldFile = before ++ (olds segments ++ after))
    (hnew : newFile = before' ++ (news segments ++ after')) :
    Shows f (walk g before.length before'.length segments)
      (output before.length before'.length segments) := by
  induction segments generalizing before before' with
  | nil => exact ⟨[], rfl, rfl⟩
  | cons segment rest ih =>
    rw [olds_cons, List.append_assoc] at hold
    rw [news_cons, List.append_assoc] at hnew
    have hrest := ih (before ++ segment.old) (before' ++ segment.new)
      (by rw [hold, List.append_assoc]) (by rw [hnew, List.append_assoc])
    rw [List.length_append, List.length_append] at hrest
    exact shows_append (hg _ _ _ _ segment hold hnew) hrest

theorem shows_unless {item : β} {texts : List Points} {lines : List DiffLine}
    (h : f item = .ok lines) (hempty : texts = [] → lines = []) :
    Shows f (if texts.length = 0 then [] else [item]) lines := by
  by_cases hlen : texts.length = 0
  · rw [if_pos hlen, hempty (List.length_eq_zero_iff.mp hlen)]
    exact ⟨[], rfl, rfl⟩
  · rw [if_neg hlen]
    exact shows_single h

theorem changed_show {removal addition : β} {before before' : Nat} {removed added : List Points}
    (hremoval : f removal = .ok (removals before removed))
    (haddition : f addition = .ok (additions before' added)) :
    Shows f ((if removed.length = 0 then [] else [removal]) ++
        (if added.length = 0 then [] else [addition]))
      (Segment.lines before before' (.changed removed added)) :=
  shows_append (shows_unless hremoval fun hnil => by rw [hnil]; rfl)
    (shows_unless haddition fun hnil => by rw [hnil]; rfl)

theorem edits_show (before after before' after' : List Points) (segment : Segment Points) :
    Shows (Edit.lines (before ++ (segment.old ++ after)).toArray
        (before' ++ (segment.new ++ after')).toArray)
      (segment.edits before.length before'.length)
      (segment.lines before.length before'.length) := by
  cases segment with
  | kept texts =>
    refine shows_single ?_
    rw [Edit.lines, Span.ofSize_size, Span.ofSize_size, Nat.min_self]
    exact contextLines_middle before' texts after' before.length
  | changed removed added =>
    exact changed_show (removedLines_middle before removed after)
      (addedLines_middle before' added after')

theorem completeLines_segments (segments : List (Segment Points)) :
    completeLines (olds segments) (news segments) (Script.ofRuns 0 0 (segments.map run)) =
      .ok (output 0 0 segments) := by
  have hshow : Shows (Edit.lines (olds segments).toArray (news segments).toArray)
      (walk edits 0 0 segments) (output 0 0 segments) := by
    refine shows_walk (olds segments) (news segments)
      (fun before after before' after' segment hold hnew => ?_) [] [] [] [] segments
      (by simp) (by simp)
    rw [hold, hnew]
    exact edits_show before after before' after' segment
  obtain ⟨parts, hparts, hflat⟩ := hshow
  rw [completeLines, ofRuns_walk, hparts, ← hflat]
  rfl

end ReviewDiff
