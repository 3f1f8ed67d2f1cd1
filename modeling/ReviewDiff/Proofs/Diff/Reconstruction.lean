import ReviewDiff.Proofs.Diff.Patch

/-!
# The files in the complete output

The complete output of a valid script holds both files. Without the removed lines it is the new
file, numbered from 1 without a gap, and without the added lines it is the old one. Every operation
of the script stands for a segment of both files, so the output is one of segments whatever the
order of the operations is. Where kept and changed lines take turns, the removed lines of a change
also come before the added ones.
-/

set_option autoImplicit false

namespace ReviewDiff

open Segment

theorem span_middle {s : Span} {i : Nat} {lines : List Points} (hstart : s.start = i)
    (hle : s.start ≤ s.stop) (hstop : s.stop ≤ lines.length) :
    ∃ before texts after, lines = before ++ (texts ++ after) ∧ i = before.length ∧
      s = .ofSize before.length texts.length := by
  obtain ⟨hdrop, hend⟩ := Span.drop_of lines hstart hle
  have hlength : (lines.take i).length = i := by
    rw [List.length_take]
    omega
  refine ⟨lines.take i, s.of lines, lines.drop (i + s.size), ?_, hlength.symm, ?_⟩
  · rw [← hdrop, List.take_append_drop]
  · rw [hlength, Span.length_of hstart hstop]
    cases s
    simp only [Span.ofSize, Span.mk.injEq] at hstart hend ⊢
    omega

theorem drop_middle (before texts after : List Points) :
    (before ++ (texts ++ after)).drop before.length = texts ++ after ∧
      (before ++ (texts ++ after)).drop (before.length + texts.length) = after := by
  constructor
  · exact List.drop_left
  · rw [← List.drop_drop, List.drop_left, List.drop_left]

theorem tiles_segments {old new : List Points} {script : Script} {i j : Nat}
    (hold : Span.Tile i old.length script.oldSpans)
    (hnew : Span.Tile j new.length script.newSpans)
    (hpairs : ∀ s t : Span, .equal s t ∈ script → s.size = t.size ∧ s.of old = t.of new) :
    ∃ segments, olds segments = old.drop i ∧ news segments = new.drop j ∧
      Shows (Edit.lines old.toArray new.toArray) script (output i j segments) := by
  induction script generalizing i j with
  | nil =>
    have hi : [] = old.drop i := Span.tile_of hold
    have hj : [] = new.drop j := Span.tile_of hnew
    exact ⟨[], hi, hj, [], rfl, rfl⟩
  | cons edit rest ih =>
    have hrest : ∀ s t : Span, .equal s t ∈ rest → s.size = t.size ∧ s.of old = t.of new := by
      intro s t h
      exact hpairs s t (List.mem_cons_of_mem edit h)
    cases edit with
    | equal s t =>
      obtain ⟨hs, hsle, hold⟩ := hold
      obtain ⟨ht, htle, hnew⟩ := hnew
      obtain ⟨before, texts, after, rfl, rfl, rfl⟩ := span_middle hs hsle (Span.tile_le hold)
      obtain ⟨before', texts', after', rfl, rfl, rfl⟩ := span_middle ht htle (Span.tile_le hnew)
      obtain ⟨segments, holds, hnews, hshows⟩ := ih hold hnew hrest
      obtain ⟨-, hsame⟩ := hpairs _ _ (List.mem_cons_self ..)
      rw [Span.of_middle, Span.of_middle] at hsame
      subst hsame
      rw [(drop_middle before texts after).2] at holds
      rw [(drop_middle before' texts after').2] at hnews
      refine ⟨.kept texts :: segments, ?_, ?_, shows_append (shows_single ?_) hshows⟩
      · rw [olds_cons, holds, (drop_middle before texts after).1]
        rfl
      · rw [news_cons, hnews, (drop_middle before' texts after').1]
        rfl
      · rw [Edit.lines, Span.ofSize_size, Span.ofSize_size, Nat.min_self]
        exact contextLines_middle before' texts after' before.length
    | delete s =>
      obtain ⟨hs, hsle, hold⟩ := hold
      obtain ⟨before, texts, after, rfl, rfl, rfl⟩ := span_middle hs hsle (Span.tile_le hold)
      obtain ⟨segments, holds, hnews, hshows⟩ := ih hold hnew hrest
      rw [(drop_middle before texts after).2] at holds
      refine ⟨.changed texts [] :: segments, ?_, ?_, shows_append (shows_single ?_) hshows⟩
      · rw [olds_cons, holds, (drop_middle before texts after).1]
        rfl
      · rw [news_cons, hnews]
        rfl
      · rw [Edit.lines, removedLines_middle, Segment.lines, additions, List.mapIdx_nil,
          List.append_nil]
    | insert t =>
      obtain ⟨ht, htle, hnew⟩ := hnew
      obtain ⟨before, texts, after, rfl, rfl, rfl⟩ := span_middle ht htle (Span.tile_le hnew)
      obtain ⟨segments, holds, hnews, hshows⟩ := ih hold hnew hrest
      rw [(drop_middle before texts after).2] at hnews
      refine ⟨.changed [] texts :: segments, ?_, ?_, shows_append (shows_single ?_) hshows⟩
      · rw [olds_cons, holds]
        rfl
      · rw [news_cons, hnews, (drop_middle before texts after).1]
        rfl
      · rw [Edit.lines, addedLines_middle, Segment.lines, removals, List.mapIdx_nil,
          List.nil_append]

theorem between_segments {old new : List Points} {script : Script} (h : script.Between old new) :
    ∃ segments, olds segments = old ∧ news segments = new ∧
      completeLines old new script = .ok (output 0 0 segments) := by
  obtain ⟨segments, hold, hnew, parts, hparts, hflat⟩ :=
    tiles_segments (i := 0) (j := 0) h.old_tile h.new_tile h.pairs
  refine ⟨segments, hold, hnew, ?_⟩
  rw [completeLines, hparts, ← hflat]
  rfl

def DiffLine.number? (side : DiffSide) (line : DiffLine) : Option Int :=
  match side with
  | .old => line.oldNumber?
  | .new => line.newNumber?

def sideNumbers (side : DiffSide) (lines : List DiffLine) : List (Option Int) :=
  (lines.filter (·.isOn side)).map (·.number? side)

def numbersBehind (i count : Nat) : List (Option Int) :=
  (List.range' (i + 1) count).map fun n : Nat => some (n : Int)

theorem numbersBehind_append (i m n : Nat) :
    numbersBehind i m ++ numbersBehind (i + m) n = numbersBehind i (m + n) := by
  rw [numbersBehind, numbersBehind, ← List.map_append, Nat.add_right_comm, List.range'_append_1]
  rfl

theorem sideNumbers_append (side : DiffSide) (lines rest : List DiffLine) :
    sideNumbers side (lines ++ rest) = sideNumbers side lines ++ sideNumbers side rest := by
  simp [sideNumbers]

theorem sideNumbers_on {side : DiffSide} {i : Nat} {f : Nat → Points → DiffLine}
    (hon : ∀ t text, (f t text).isOn side = true)
    (hf : ∀ t text, (f t text).number? side = some ((i + t + 1 : Nat) : Int))
    (texts : List Points) :
    sideNumbers side (texts.mapIdx f) = numbersBehind i texts.length := by
  have hall : ∀ line ∈ texts.mapIdx f, line.isOn side = true := by
    intro line hline
    obtain ⟨t, ht, rfl⟩ := List.mem_mapIdx.mp hline
    exact hon t texts[t]
  rw [sideNumbers, List.filter_eq_self.mpr hall]
  apply List.ext_getElem
  · simp [numbersBehind]
  · intro t ht ht'
    simp [numbersBehind, hf, Nat.add_right_comm]

theorem sideNumbers_off {side : DiffSide} {f : Nat → Points → DiffLine}
    (hoff : ∀ t text, (f t text).isOn side = false) (texts : List Points) :
    sideNumbers side (texts.mapIdx f) = [] := by
  have hnone : (texts.mapIdx f).filter (·.isOn side) = [] := by
    rw [List.filter_eq_nil_iff]
    intro line hline
    obtain ⟨t, ht, rfl⟩ := List.mem_mapIdx.mp hline
    simp [hoff]
  rw [sideNumbers, hnone, List.map_nil]

theorem sideNumbers_output (side : DiffSide) (i j : Nat) (segments : List (Segment Points)) :
    sideNumbers side (output i j segments) =
      match side with
      | .old => numbersBehind i (olds segments).length
      | .new => numbersBehind j (news segments).length := by
  induction segments generalizing i j with
  | nil => cases side <;> rfl
  | cons segment rest ih =>
    rw [output, walk, ← output, sideNumbers_append, ih]
    cases segment with
    | kept texts =>
      rw [Segment.lines, contexts]
      cases side with
      | old =>
        rw [sideNumbers_on (i := i) (fun _ _ => rfl) (fun _ _ => rfl)]
        simp [old, numbersBehind_append]
      | new =>
        rw [sideNumbers_on (i := j) (fun _ _ => rfl) (fun _ _ => rfl)]
        simp [new, numbersBehind_append]
    | changed removed added =>
      rw [Segment.lines, sideNumbers_append, removals, additions]
      cases side with
      | old =>
        rw [sideNumbers_on (i := i) (fun _ _ => rfl) (fun _ _ => rfl),
          sideNumbers_off (fun _ _ => rfl)]
        simp [old, numbersBehind_append]
      | new =>
        rw [sideNumbers_off (fun _ _ => rfl),
          sideNumbers_on (i := j) (fun _ _ => rfl) (fun _ _ => rfl)]
        simp [new, numbersBehind_append]

def RemovedFirst (lines : List DiffLine) : Prop :=
  lines.IsChain fun line next => ¬ (line.kind = .added ∧ next.kind = .removed)

theorem contexts_kind (i j : Nat) (texts : List Points) :
    ∀ line ∈ contexts i j texts, line.kind = .context := by
  intro line hline
  obtain ⟨t, ht, rfl⟩ := List.mem_mapIdx.mp hline
  rfl

theorem removals_kind (i : Nat) (texts : List Points) :
    ∀ line ∈ removals i texts, line.kind = .removed := by
  intro line hline
  obtain ⟨t, ht, rfl⟩ := List.mem_mapIdx.mp hline
  rfl

theorem additions_kind (j : Nat) (texts : List Points) :
    ∀ line ∈ additions j texts, line.kind = .added := by
  intro line hline
  obtain ⟨t, ht, rfl⟩ := List.mem_mapIdx.mp hline
  rfl

theorem removedFirst_kind {lines : List DiffLine} {kind : LineKind}
    (h : ∀ line ∈ lines, line.kind = kind) : RemovedFirst lines := by
  apply List.Pairwise.isChain
  rw [List.pairwise_iff_forall_sublist]
  intro line next hsub ⟨hadded, hremoved⟩
  have hline := h line (hsub.subset (by simp))
  have hnext := h next (hsub.subset (by simp))
  rw [hline] at hadded
  rw [hnext, hadded] at hremoved
  cases hremoved

theorem alternate_head {segments : List (Segment Points)} (h : Alternate true segments)
    (i j : Nat) : ∀ line ∈ (output i j segments).head?, line.kind = .context := by
  cases h with
  | nil =>
    intro line hline
    cases hline
  | @kept texts rest hlines hrest =>
    intro line hline
    cases texts with
    | nil => exact absurd rfl hlines
    | cons text texts =>
      rw [output, walk, Segment.lines, contexts, List.mapIdx_cons] at hline
      cases hline
      rfl

theorem output_removedFirst {turn : Bool} {segments : List (Segment Points)}
    (h : Alternate turn segments) (i j : Nat) : RemovedFirst (output i j segments) := by
  induction h generalizing i j with
  | nil => exact .nil
  | @kept texts rest hlines hrest ih =>
    rw [output, walk, ← output, RemovedFirst, List.isChain_append]
    refine ⟨removedFirst_kind (contexts_kind i j texts), ih _ _, ?_⟩
    rintro line hline next - ⟨hadded, -⟩
    rw [contexts_kind i j texts line (List.mem_of_getLast? hline)] at hadded
    cases hadded
  | @changed removed added rest hlines hrest ih =>
    rw [output, walk, ← output, RemovedFirst, Segment.lines, List.isChain_append,
      List.isChain_append]
    refine ⟨⟨removedFirst_kind (removals_kind i removed),
      removedFirst_kind (additions_kind j added), ?_⟩, ih _ _, ?_⟩
    · rintro line hline next - ⟨hadded, -⟩
      rw [removals_kind i removed line (List.mem_of_getLast? hline)] at hadded
      cases hadded
    · -- Behind a change stands an unchanged line, if any.
      rintro line - next hnext ⟨-, hremoved⟩
      rw [alternate_head hrest _ _ next hnext] at hremoved
      cases hremoved

/-- The line at a position is of a kind. -/
def KindAt (lines : List DiffLine) (p : Nat) (kind : LineKind) : Prop :=
  ∃ line, lines[p]? = some line ∧ line.kind = kind

theorem kindAt_unique {lines : List DiffLine} {p : Nat} {kind other : LineKind}
    (h : KindAt lines p kind) (h' : KindAt lines p other) : kind = other := by
  obtain ⟨line, hline, rfl⟩ := h
  obtain ⟨line', hline', rfl⟩ := h'
  rw [hline] at hline'
  cases hline'
  rfl

theorem changeAt_kind {lines : List DiffLine} {p : Nat} (h : ChangeAt lines p) :
    KindAt lines p .added ∨ KindAt lines p .removed := by
  obtain ⟨line, hline, hchange⟩ := h
  cases line with
  | context | header => cases hchange
  | added => exact .inl ⟨_, hline, rfl⟩
  | removed => exact .inr ⟨_, hline, rfl⟩

theorem RemovedFirst.added {lines : List DiffLine} (h : RemovedFirst lines) {p q : Nat}
    (hle : p ≤ q) (hadded : KindAt lines p .added)
    (hchanged : ∀ t, p ≤ t → t ≤ q → ChangeAt lines t) : KindAt lines q .added := by
  induction q, hle using Nat.le_induction with
  | base => exact hadded
  | succ q hle ih =>
    have hbefore := ih fun t ht htq => hchanged t ht (Nat.le_succ_of_le htq)
    have hnext := hchanged (q+1) (Nat.le_succ_of_le hle) (Nat.le_refl _)
    refine (changeAt_kind hnext).resolve_right fun hremoved => ?_
    obtain ⟨line, hline, hkind⟩ := hbefore
    obtain ⟨next, hnext, hkind'⟩ := hremoved
    obtain ⟨hlt, rfl⟩ := List.getElem?_eq_some_iff.mp hline
    obtain ⟨hlt', rfl⟩ := List.getElem?_eq_some_iff.mp hnext
    exact List.isChain_iff_getElem.mp h q hlt' ⟨hkind, hkind'⟩

theorem RemovedFirst.before {lines : List DiffLine} (h : RemovedFirst lines) {s : Stretch}
    (hchanged : ∀ t, s.Holds t → ChangeAt lines t) {p q : Nat} (hp : s.Holds p) (hq : s.Holds q)
    (hremoved : KindAt lines p .removed) (hadded : KindAt lines q .added) : p < q := by
  by_contra hlt
  have hlater : KindAt lines p .added := by
    apply h.added (Nat.le_of_not_lt hlt) hadded
    intro t ht htp
    apply hchanged t
    exact ⟨Nat.le_trans hq.1 ht, Nat.lt_of_le_of_lt htp hp.2⟩
  cases kindAt_unique hremoved hlater

/-- Without the lines of the other file the output is each file, numbered from 1 without a gap. -/
structure Reconstructs (old new : List Points) (lines : List DiffLine) : Prop where
  newTexts : (lines.filter fun line => line.kind ≠ .removed).map (·.content) = new
  newNumbers : (lines.filter fun line => line.kind ≠ .removed).map (·.newNumber?) =
    (List.range' 1 new.length).map fun n : Nat => some (n : Int)
  oldTexts : (lines.filter fun line => line.kind ≠ .added).map (·.content) = old
  oldNumbers : (lines.filter fun line => line.kind ≠ .added).map (·.oldNumber?) =
    (List.range' 1 old.length).map fun n : Nat => some (n : Int)

def DiffSide.missing : DiffSide → LineKind
  | .old => .added
  | .new => .removed

theorem filter_side (side : DiffSide) {lines : List DiffLine}
    (h : ∀ line ∈ lines, line.kind ≠ .header) :
    lines.filter (fun line => line.kind ≠ side.missing) = lines.filter (·.isOn side) := by
  apply List.filter_congr
  intro line hline
  cases line with
  | header => exact absurd rfl (h _ hline)
  | context => cases side <;> rfl
  | added => cases side <;> rfl
  | removed => cases side <;> rfl

theorem output_reconstructs (segments : List (Segment Points)) :
    Reconstructs (olds segments) (news segments) (output 0 0 segments) := by
  have hnew : (output 0 0 segments).filter (fun line => line.kind ≠ .removed) =
      (output 0 0 segments).filter (·.isOn .new) := filter_side .new (output_headers 0 0 segments)
  have hold : (output 0 0 segments).filter (fun line => line.kind ≠ .added) =
      (output 0 0 segments).filter (·.isOn .old) := filter_side .old (output_headers 0 0 segments)
  constructor
  · rw [hnew]
    exact sideTexts_output .new 0 0 segments
  · rw [hnew]
    exact sideNumbers_output .new 0 0 segments
  · rw [hold]
    exact sideTexts_output .old 0 0 segments
  · rw [hold]
    exact sideNumbers_output .old 0 0 segments

/-- The complete output of every valid script holds both files. The script between two files is
valid, and in every stretch of changed lines of its output the removed lines come first. -/
theorem completeLines_reconstruct (old new : List Points) :
    (∀ script : Script, script.Between old new →
      ∃ lines, completeLines old new script = .ok lines ∧ Reconstructs old new lines) ∧
    ∃ lines, editScript? old new = some (editScript old new) ∧
      (editScript old new).Between old new ∧
      completeLines old new (editScript old new) = .ok lines ∧ Reconstructs old new lines ∧
      ∀ s : Stretch, (∀ t, s.Holds t → ChangeAt lines t) → ∀ p q, s.Holds p → s.Holds q →
        KindAt lines p .removed → KindAt lines q .added → p < q := by
  constructor
  · intro script h
    obtain ⟨segments, rfl, rfl, hcomplete⟩ := between_segments h
    exact ⟨_, hcomplete, output_reconstructs segments⟩
  · obtain ⟨steps, hscript, heq, hedits, -⟩ := editScript_ofSteps old new
    have hbetween : (editScript old new).Between old new := heq ▸ (ofSteps_valid hedits).1
    obtain ⟨turn, segments, halt, rfl, rfl, -, hcomplete, -⟩ := editScript_outputs old new
    refine ⟨_, hscript, hbetween, hcomplete, output_reconstructs segments, ?_⟩
    intro s hchanged p q hp hq hremoved hadded
    exact (output_removedFirst halt 0 0).before hchanged hp hq hremoved hadded

/-- A script that inserts before it deletes is valid, too. -/
theorem completeLines_reconstruct_inserted :
    let old : List Points := ["first", "last"]
    let new : List Points := ["other", "last"]
    let script : Script := [.insert (.ofSize 0 1), .delete (.ofSize 0 1),
      .equal (.ofSize 1 1) (.ofSize 1 1)]
    script.Between old new ∧
      ∃ lines, completeLines old new script = .ok lines ∧ Reconstructs old new lines := by
  intro old new script
  have hbetween : script.Between old new := by
    constructor
    · exact ⟨rfl, by decide, rfl, by decide, rfl⟩
    · exact ⟨rfl, by decide, rfl, by decide, rfl⟩
    · intro s t h
      have hkept : s = .ofSize 1 1 ∧ t = .ofSize 1 1 := by simpa [script] using h
      obtain ⟨rfl, rfl⟩ := hkept
      exact ⟨rfl, rfl⟩
  exact ⟨hbetween, (completeLines_reconstruct old new).1 script hbetween⟩

end ReviewDiff
