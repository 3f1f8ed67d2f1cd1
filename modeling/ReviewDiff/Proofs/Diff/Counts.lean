import ReviewDiff.Diff.Stats
import ReviewDiff.Proofs.Diff.Reconstruction

/-!
# Counts of an output

The counts of a diff are read off its lines alone. The hunks show every changed line of the complete
output once, and their headers are the only lines that start a hunk, so the counts do not depend on
the context. The changed lines together are what the script costs, which is the least, and so the
counts say how many lines of either file are left over by a longest common subsequence.
-/

set_option autoImplicit false

namespace ReviewDiff

open Segment Piece

theorem countP_changes (lines : List DiffLine) {kind : LineKind}
    (h : kind = .added ∨ kind = .removed) :
    lines.countP (fun line => line.kind = kind) =
      (lines.filter (·.isChange)).countP fun line => line.kind = kind := by
  rw [List.countP_filter]
  apply List.countP_congr
  intro line _
  rcases h with rfl | rfl
  · cases line <;> simp [DiffLine.kind, DiffLine.isChange]
  · cases line <;> simp [DiffLine.kind, DiffLine.isChange]

theorem countP_kind {lines : List DiffLine} {kind : LineKind}
    (h : ∀ line ∈ lines, line.kind = kind) (other : LineKind) :
    lines.countP (fun line => line.kind = other) = if kind = other then lines.length else 0 := by
  by_cases heq : kind = other
  · rw [if_pos heq, List.countP_eq_length]
    intro line hline
    simpa [h line hline] using heq
  · rw [if_neg heq, List.countP_eq_zero]
    intro line hline
    simpa [h line hline] using heq

theorem isHunkHeader_headerText (h : Hunk) : DiffStats.isHunkHeader h.headerText = true := by
  simp only [DiffStats.isHunkHeader, Hunk.headerText, Points.ofString_append, List.append_assoc]
  rfl

theorem output_changes (hunks : List Hunk) :
    (Hunk.output hunks).filter (·.isChange) =
      (hunks.flatMap Hunk.lines).filter (·.isChange) := by
  induction hunks with
  | nil => rfl
  | cons hunk rest ih =>
    rw [List.flatMap_cons, List.filter_append, ← ih, ← List.filter_append]
    rfl

theorem output_header {hunks : List Hunk}
    (h : ∀ hunk ∈ hunks, ∀ line ∈ hunk.lines, line.kind ≠ .header) :
    ∀ line ∈ Hunk.output hunks, line.kind = .header →
      DiffStats.isHunkHeader line.content = true := by
  intro line hline hkind
  obtain ⟨hunk, hhunk, hmem⟩ := List.mem_flatMap.mp hline
  rcases List.mem_cons.mp hmem with rfl | hmem
  · exact isHunkHeader_headerText hunk
  · exact absurd hkind (h hunk hhunk line hmem)

theorem countP_headers {hunks : List Hunk}
    (h : ∀ hunk ∈ hunks, ∀ line ∈ hunk.lines, line.kind ≠ .header) :
    (Hunk.output hunks).countP (fun line => line.kind = .header) = hunks.length := by
  induction hunks with
  | nil => rfl
  | cons hunk rest ih =>
    have hrest := ih fun next hnext => h next (List.mem_cons_of_mem hunk hnext)
    have hlines : hunk.lines.countP (fun line => line.kind = .header) = 0 := by
      rw [List.countP_eq_zero]
      intro line hline
      simpa using h hunk List.mem_cons_self line hline
    rw [Hunk.output, List.flatMap_cons, List.cons_append, List.countP_cons, List.countP_append,
      hlines, ← Hunk.output, hrest]
    simp [Hunk.header, DiffLine.kind]

def DiffStats.ofChanges (changes : List DiffLine) (hunks : Nat) : DiffStats :=
  let added := changes.countP fun line => line.kind = .added
  let removed := changes.countP fun line => line.kind = .removed
  ⟨added, removed, hunks, added = 0 && removed = 0⟩

theorem ofLines_ofChanges {lines : List DiffLine}
    (h : ∀ line ∈ lines, line.kind = .header → DiffStats.isHunkHeader line.content = true) :
    DiffStats.ofLines lines = .ofChanges (lines.filter (·.isChange))
      (lines.countP fun line => line.kind = .header) := by
  have hunmarked : lines.any DiffStats.isMarker = false := by
    rw [List.any_eq_false]
    intro line hline
    by_cases hkind : line.kind = .header
    · simp [DiffStats.isMarker, h line hline hkind]
    · simp [DiffStats.isMarker, hkind]
  have hheaders : lines.countP (fun line =>
      line.kind = .header && DiffStats.isHunkHeader line.content) =
        lines.countP fun line => line.kind = .header := by
    apply List.countP_congr
    intro line hline
    by_cases hkind : line.kind = .header
    · simp [hkind, h line hline hkind]
    · simp [hkind]
  rw [DiffStats.ofLines, countP_changes lines (.inl rfl), countP_changes lines (.inr rfl), hheaders,
    hunmarked, Bool.not_false, Bool.and_true]
  rfl

theorem ofLines_output (segments : List (Segment Points)) :
    DiffStats.ofLines (output 0 0 segments) =
      .ofChanges ((output 0 0 segments).filter (·.isChange)) 0 := by
  have hheaders := output_headers 0 0 segments
  have hnone : (output 0 0 segments).countP (fun line => line.kind = .header) = 0 := by
    rw [List.countP_eq_zero]
    intro line hline
    simpa using hheaders line hline
  rw [ofLines_ofChanges fun line hline hkind => absurd hkind (hheaders line hline), hnone]

theorem ofLines_around (n : Nat) {turn : Bool} {segments : List (Segment Points)}
    (h : Alternate turn segments) :
    DiffStats.ofLines (Hunk.output ((around n segments).map Piece.hunk)) =
      .ofChanges ((output 0 0 segments).filter (·.isChange)) (around n segments).length := by
  have hlines : ∀ hunk ∈ (around n segments).map Piece.hunk, ∀ line ∈ hunk.lines,
      line.kind ≠ .header := by
    intro hunk hhunk
    obtain ⟨p, -, rfl⟩ := List.mem_map.mp hhunk
    exact piece_headers p
  rw [ofLines_ofChanges (output_header hlines), output_changes, countP_headers hlines,
    List.length_map, List.flatMap_map]
  exact congrArg (DiffStats.ofChanges · _) (around_changes n h)

theorem segment_counts (i j : Nat) (segment : Segment Points) :
    (segment.lines i j).countP (fun line => line.kind = .added) +
        (segment.lines i j).countP (fun line => line.kind = .removed) = segment.run.cost ∧
      segment.old.length + (segment.lines i j).countP (fun line => line.kind = .added) =
        segment.new.length + (segment.lines i j).countP fun line => line.kind = .removed := by
  cases segment with
  | kept texts =>
    rw [Segment.lines, countP_kind (contexts_kind i j texts), countP_kind (contexts_kind i j texts)]
    exact ⟨rfl, rfl⟩
  | changed removed added =>
    simp only [Segment.lines, List.countP_append, countP_kind (removals_kind i removed),
      countP_kind (additions_kind j added), removals_length, additions_length, run, Run.cost,
      Segment.old, Segment.new, reduceCtorEq, if_true, if_false]
    omega

/-- The changed lines of segments are what their script costs, and they make up the difference
between the lengths of the files. -/
theorem output_counts (i j : Nat) (segments : List (Segment Points)) :
    (output i j segments).countP (fun line => line.kind = .added) +
        (output i j segments).countP (fun line => line.kind = .removed) =
          Run.total (segments.map run) ∧
      (olds segments).length + (output i j segments).countP (fun line => line.kind = .added) =
        (news segments).length +
          (output i j segments).countP fun line => line.kind = .removed := by
  induction segments generalizing i j with
  | nil => exact ⟨rfl, rfl⟩
  | cons segment rest ih =>
    have hsegment := segment_counts i j segment
    have hrest := ih (i + segment.old.length) (j + segment.new.length)
    rw [output, walk, ← output, List.countP_append, List.countP_append, olds_cons, news_cons,
      List.length_append, List.length_append, List.map_cons, Run.total]
    omega

theorem ofChanges_common {segments : List (Segment Points)} {common : List Points}
    (h : LongestCommon common (olds segments) (news segments))
    (hcost : Run.total (segments.map run) + 2 * common.length =
      (olds segments).length + (news segments).length) (hunks : Nat) :
    DiffStats.ofChanges ((output 0 0 segments).filter (·.isChange)) hunks =
      ⟨(news segments).length - common.length, (olds segments).length - common.length, hunks,
        olds segments = news segments⟩ := by
  -- The sum and the difference of the two counts are known, and so are they.
  obtain ⟨htotal, hlengths⟩ := output_counts 0 0 segments
  have hold := h.sub_old.length_le
  have hnew := h.sub_new.length_le
  have hadded : (output 0 0 segments).countP (fun line => line.kind = .added) =
      (news segments).length - common.length := by omega
  have hremoved : (output 0 0 segments).countP (fun line => line.kind = .removed) =
      (olds segments).length - common.length := by omega
  have hnone : (news segments).length - common.length = 0 ∧
      (olds segments).length - common.length = 0 ↔ olds segments = news segments := by
    rw [← longest_whole h]
    omega
  rw [DiffStats.ofChanges, ← countP_changes _ (.inl rfl), ← countP_changes _ (.inr rfl), hadded,
    hremoved]
  simp [← hnone]

theorem editScript_counts (old new : List Points) :
    ∃ turn segments common, Alternate turn segments ∧ olds segments = old ∧ news segments = new ∧
      editScript? old new = some (editScript old new) ∧
      editScript old new = Script.ofRuns 0 0 (segments.map run) ∧
      LongestCommon common old new ∧
      ∀ hunks : Nat, DiffStats.ofChanges ((output 0 0 segments).filter (·.isChange)) hunks =
        ⟨new.length - common.length, old.length - common.length, hunks, old = new⟩ := by
  obtain ⟨common, hcommon, hcost⟩ := editScript_common old new
  obtain ⟨turn, segments, halt, rfl, rfl, hsome, hscript⟩ := editScript_segments old new
  rw [hscript, ofRuns_cost] at hcost
  exact ⟨turn, segments, common, halt, rfl, rfl, hsome, hscript, hcommon,
    ofChanges_common hcommon hcost⟩

/-- The counts of the hunks and of the complete output are those of a longest common subsequence,
whatever the context and the texts of the lines are, and tell whether the files are equal. -/
theorem stats_exact (old new : List Points) (n : Nat) :
    ∃ complete hunks common, editScript? old new = some (editScript old new) ∧
      completeLines old new (editScript old new) = .ok complete ∧
      Hunk.ofScript old new (editScript old new) n = .ok hunks ∧
      LongestCommon common old new ∧
      DiffStats.ofLines (Hunk.output hunks) =
        ⟨new.length - common.length, old.length - common.length, hunks.length, old = new⟩ ∧
      DiffStats.ofLines complete =
        ⟨new.length - common.length, old.length - common.length, 0, old = new⟩ := by
  obtain ⟨turn, segments, common, halt, rfl, rfl, hsome, hscript, hcommon, hcounts⟩ :=
    editScript_counts old new
  have hcomplete := completeLines_segments segments
  have hhunks := ofScript_around n halt
  rw [← hscript] at hcomplete hhunks
  refine ⟨_, _, common, hsome, hcomplete, hhunks, hcommon, ?_, ?_⟩
  · rw [ofLines_around n halt, List.length_map, hcounts]
  · rw [ofLines_output, hcounts]

-- Text that looks like a header counts as the change that it is.
example : DiffStats.ofLines (Hunk.output [⟨1, 1, 0, 0, [.removed "@@" 1]⟩]) =
    ⟨0, 1, 1, false⟩ := by decide

end ReviewDiff
