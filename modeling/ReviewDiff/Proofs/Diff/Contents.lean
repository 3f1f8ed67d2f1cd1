import ReviewDiff.Diff.Hunk
import ReviewDiff.Diff.Stats
import ReviewDiff.Proofs.Outcome
import ReviewDiff.Proofs.Text.Points

/-!
# What output is made of

Whatever a script says, a line of its output shows the text of a line of one of the files, and the
header of a hunk consists of characters. So output for files whose lines have bytes has a size.
-/

set_option autoImplicit false

namespace ReviewDiff

theorem lineAt_mem {lines : List Points} {position : Int} {text : Points}
    (h : lineAt lines.toArray position = .ok text) : text ∈ lines := by
  simp only [lineAt] at h
  generalize (if position < 0 then position + lines.toArray.size else position) = index at h
  split at h
  · cases h
  · split at h
    · rename_i line hline
      obtain rfl := Except.ok.inj h
      exact List.mem_toArray.mp (Array.mem_of_getElem? hline)
    · cases h

theorem collect_forall {f : Int → Except PositionFault DiffLine} {Q : DiffLine → Prop}
    (hf : ∀ offset line, f offset = .ok line → Q line) {count : Nat} {offset : Int}
    {lines : List DiffLine} (h : collect f count offset = .ok lines) : ∀ line ∈ lines, Q line := by
  induction count generalizing offset lines with
  | zero =>
    obtain rfl := Except.ok.inj h
    exact fun _ hline => absurd hline List.not_mem_nil
  | succ count ih =>
    rw [collect] at h
    obtain ⟨line, hline, h⟩ := bind_ok h
    obtain ⟨rest, hrest, h⟩ := bind_ok h
    obtain rfl := Except.ok.inj h
    exact List.forall_mem_cons.mpr ⟨hf offset line hline, ih hrest⟩

theorem lineAt_content {lines : List Points} {position : Int} {shown : Points → DiffLine}
    (hshown : ∀ text, (shown text).content = text) {line : DiffLine}
    (h : (do return shown (← lineAt lines.toArray position) : Except PositionFault DiffLine) =
      .ok line) : line.content ∈ lines := by
  obtain ⟨text, htext, h⟩ := bind_ok h
  obtain rfl := Except.ok.inj h
  rw [hshown]
  exact lineAt_mem htext

section

variable {old new : List Points} {lines : List DiffLine}

theorem contextLines_content {i j : Int} {count : Nat}
    (h : contextLines new.toArray i j count = .ok lines) :
    ∀ line ∈ lines, line.content ∈ new :=
  collect_forall (fun _ _ => lineAt_content fun _ => rfl) h

theorem removedLines_content {span : Span} (h : removedLines old.toArray span = .ok lines) :
    ∀ line ∈ lines, line.content ∈ old :=
  collect_forall (fun _ _ => lineAt_content fun _ => rfl) h

theorem addedLines_content {span : Span} (h : addedLines new.toArray span = .ok lines) :
    ∀ line ∈ lines, line.content ∈ new :=
  collect_forall (fun _ _ => lineAt_content fun _ => rfl) h

theorem editLines_content {edit : Edit} (h : edit.lines old.toArray new.toArray = .ok lines) :
    ∀ line ∈ lines, line.content ∈ old ++ new := by
  intro line hline
  cases edit with
  | equal i j => exact List.mem_append_right old (contextLines_content h line hline)
  | delete i => exact List.mem_append_left new (removedLines_content h line hline)
  | insert j => exact List.mem_append_right old (addedLines_content h line hline)

theorem blockLines_content {b : Block} (h : b.lines old.toArray new.toArray = .ok lines) :
    ∀ line ∈ lines, line.content ∈ old ++ new := by
  intro line hline
  rw [Block.lines] at h
  split at h
  · exact List.mem_append_right old (contextLines_content h line hline)
  · exact List.mem_append_left new (removedLines_content h line hline)
  · exact List.mem_append_right old (addedLines_content h line hline)

theorem completeLines_content {script : Script} (h : completeLines old new script = .ok lines) :
    ∀ line ∈ lines, line.content ∈ old ++ new := by
  rw [completeLines] at h
  obtain ⟨parts, hparts, rfl⟩ := map_ok h
  exact mapM_flatten_forall (fun _ _ => editLines_content) hparts

theorem ofGroup_content {group : List Block} {hunk : Hunk}
    (h : Hunk.ofGroup old.toArray new.toArray group = .ok hunk) :
    ∀ line ∈ hunk.lines, line.content ∈ old ++ new := by
  rw [Hunk.ofGroup] at h
  obtain ⟨parts, hparts, h⟩ := bind_ok h
  obtain rfl := Except.ok.inj h
  exact mapM_flatten_forall (fun _ _ => blockLines_content) hparts

theorem ofScript_content {script : Script} {context : Int} {hunks : List Hunk}
    (h : Hunk.ofScript old new script context = .ok hunks) :
    ∀ hunk ∈ hunks, ∀ line ∈ hunk.lines, line.content ∈ old ++ new := by
  rw [Hunk.ofScript] at h
  split at h
  · cases h
  · split at h
    · cases h
    · obtain rfl := Except.ok.inj h
      exact mapM_forall (fun _ _ => ofGroup_content) ‹_›

end

theorem estimateSize_ok {lines : List DiffLine} (h : ∀ line ∈ lines, line.content.Encodable) :
    ∃ size, estimateSize lines = .ok size := by
  induction lines with
  | nil => exact ⟨0, rfl⟩
  | cons line rest ih =>
    obtain ⟨hline, hrest⟩ := List.forall_mem_cons.mp h
    obtain ⟨size, hsize⟩ := hline.exists_size
    obtain ⟨sizes, hsizes⟩ := ih hrest
    rw [estimateSize, hsize, hsizes]
    exact ⟨_, rfl⟩

/-- Hunks of lines that have bytes have a size, with their headers. -/
theorem output_size {hunks : List Hunk}
    (h : ∀ hunk ∈ hunks, ∀ line ∈ hunk.lines, line.content.Encodable) :
    ∃ size, estimateSize (Hunk.output hunks) = .ok size := by
  refine estimateSize_ok fun line hline => ?_
  obtain ⟨hunk, hmem, hshown⟩ := List.mem_flatMap.mp hline
  obtain rfl | hshown := List.mem_cons.mp hshown
  · exact Points.encodable_ofString hunk.headerText
  · exact h hunk hmem line hshown

end ReviewDiff
