import ReviewDiff.Proofs.Diff.Reconstruction

/-!
# Where hunks say that they stand

A hunk gives, for each side, how many of its lines stand in the file of that side and the number of
the first of them, or of the line before the hunk where it has none. From these numbers it is known
how many lines of the file stand before the hunk, and they agree with the complete output. From one
hunk to the next the same number of lines is left out on both sides.
-/

set_option autoImplicit false

namespace ReviewDiff

open Segment Piece

namespace Hunk

def start (side : DiffSide) (h : Hunk) : Int :=
  match side with
  | .old => h.oldStart
  | .new => h.newStart

def count (side : DiffSide) (h : Hunk) : Int :=
  match side with
  | .old => h.oldCount
  | .new => h.newCount

def position (side : DiffSide) (h : Hunk) : Int :=
  if h.count side = 0 then h.start side else h.start side - 1

structure Placed (complete : List DiffLine) (h : Hunk) : Prop where
  changed : ∃ line ∈ h.lines, line.isChange
  count (side : DiffSide) : h.count side = h.lines.countP fun line => line.kind ≠ side.missing
  numbers (side : DiffSide) (t : Nat) :
    ∀ line ∈ (h.lines.filter fun line => line.kind ≠ side.missing)[t]?,
      line.number? side = some (h.start side + t)
  place : ∃ before after, complete = before ++ (h.lines ++ after) ∧
    ∀ side, h.position side = before.countP fun line => line.kind ≠ side.missing

end Hunk

theorem hunk_count (side : DiffSide) (p : Piece) :
    p.hunk.count side = (file side p.segments).length := by
  cases side <;> rfl

theorem hunk_start (side : DiffSide) (p : Piece) :
    p.hunk.start side = Hunk.sideStart (p.start side) (p.hunk.count side) := by
  cases side <;> rfl

theorem hunk_position (side : DiffSide) (p : Piece) : p.hunk.position side = p.start side := by
  rw [Hunk.position, hunk_start, Hunk.sideStart]
  split
  · rfl
  · exact Int.add_sub_cancel _ 1

theorem countP_side (side : DiffSide) {lines : List DiffLine}
    (h : ∀ line ∈ lines, line.kind ≠ .header) :
    (lines.countP fun line => line.kind ≠ side.missing) = (sideTexts side lines).length := by
  rw [List.countP_eq_length_filter, filter_side side h, sideTexts, List.length_map]

theorem piece_number (side : DiffSide) (p : Piece) (t : Nat) :
    ∀ line ∈ (p.lines.filter (·.isOn side))[t]?,
      line.number? side = some ((p.start side + t + 1 : Nat) : Int) := by
  intro line hline
  have hnumbers : sideNumbers side p.lines =
      numbersBehind (p.start side) (file side p.segments).length := by
    rw [Piece.lines, sideNumbers_output]
    cases side <;> rfl
  have hat := congrArg (·[t]?) hnumbers
  rw [Option.mem_def] at hline
  simp only [sideNumbers, List.getElem?_map, hline, Option.map_some, numbersBehind] at hat
  obtain ⟨n, hn, hnumber⟩ := Option.map_eq_some_iff.mp hat.symm
  obtain ⟨ht, rfl⟩ := List.getElem?_eq_some_iff.mp hn
  rw [← hnumber, List.getElem_range']
  congr 2
  omega

theorem piece_placed {n : Nat} {complete : List DiffLine} {p : Piece}
    (hcovered : Covered n p.lines) (hcomplete : ∀ line ∈ complete, line.kind ≠ .header)
    (h : p.StandsIn complete) : p.hunk.Placed complete := by
  obtain ⟨before, after, rfl, hbefore⟩ := h
  constructor
  · obtain ⟨q, line, hline, hchange⟩ := hcovered.changed
    exact ⟨line, List.mem_of_getElem? hline, hchange⟩
  · intro side
    rw [hunk_count, ← piece_sideTexts]
    exact congrArg Int.ofNat (countP_side side (piece_headers p)).symm
  · intro side t line hline
    have hside : (p.lines.filter fun line => line.kind ≠ side.missing) = _ :=
      filter_side side (piece_headers p)
    have hmem : line ∈ (p.lines.filter (·.isOn side))[t]? := hside ▸ hline
    have hcount : p.hunk.count side ≠ 0 := by
      obtain ⟨ht, -⟩ := List.getElem?_eq_some_iff.mp hmem
      rw [hunk_count, ← piece_sideTexts, sideTexts, List.length_map]
      omega
    rw [piece_number side p t line hmem, hunk_start, Hunk.sideStart, if_neg hcount]
    congr 1
    omega
  · refine ⟨before, after, rfl, fun side => ?_⟩
    have hheaders : ∀ line ∈ before, line.kind ≠ .header := by
      intro line hline
      exact hcomplete line (List.mem_append_left _ hline)
    rw [hunk_position, ← hbefore side]
    exact congrArg Int.ofNat (countP_side side hheaders).symm

/-- A hunk stands behind another, and the same number of lines of either side lies between them. -/
def Hunk.Follows (h next : Hunk) : Prop :=
  ∃ skipped : Nat, 1 ≤ skipped ∧
    ∀ side, next.position side = h.position side + h.count side + skipped

theorem next_follows {p q : Piece} {gap : List Points} (hgap : gap ≠ [])
    (hold : q.old = p.oldStop + gap.length) (hnew : q.new = p.newStop + gap.length) :
    p.hunk.Follows q.hunk := by
  refine ⟨gap.length, List.length_pos_iff.mpr hgap, fun side => ?_⟩
  rw [hunk_position, hunk_position, hunk_count, ← piece_sideTexts, next_start side hold hnew]
  norm_cast

theorem laid_follows {n : Nat} {lines : List DiffLine} {pieces : List Piece}
    (h : Laid n lines pieces) : (pieces.map Piece.hunk).IsChain Hunk.Follows := by
  induction h with
  | last p tail _ => exact .singleton _
  | next p q gap hgap _ _ hold hnew _ ih =>
    exact List.isChain_cons_cons.mpr ⟨next_follows hgap hold hnew, ih⟩

theorem around_follows (n : Nat) {turn : Bool} {segments : List (Segment Points)}
    (h : Alternate turn segments) : ((around n segments).map Piece.hunk).IsChain Hunk.Follows := by
  obtain ⟨lead, lines, -, ⟨hnone, -⟩ | ⟨p, rest, hpieces, hlaid, -⟩⟩ := around_laid n h
  · rw [hnone]
    exact .nil
  · rw [hpieces]
    exact laid_follows hlaid

/-- Every changed line stands in a hunk, and every hunk has one. It counts its lines of either side,
which are numbered one after the other from the start that it gives, or tells how many lines of that
side stand before it. Hunks follow one another, and the same number of lines, at least one, is left
out between two of them on both sides. -/
theorem hunks_coordinates (old new : List Points) (n : Nat) :
    ∃ complete hunks, editScript? old new = some (editScript old new) ∧
      completeLines old new (editScript old new) = .ok complete ∧
      Hunk.ofScript old new (editScript old new) n = .ok hunks ∧
      (hunks.flatMap Hunk.lines).filter (·.isChange) = complete.filter (·.isChange) ∧
      (∀ h ∈ hunks, h.Placed complete) ∧ hunks.IsChain Hunk.Follows := by
  obtain ⟨turn, segments, halt, -, -, hscript, hcomplete, hhunks⟩ := editScript_outputs old new
  refine ⟨_, _, hscript, hcomplete, hhunks n, ?_, ?_, around_follows n halt⟩
  · rw [List.flatMap_map]
    exact around_changes n halt
  · intro h hh
    obtain ⟨p, hp, rfl⟩ := List.mem_map.mp hh
    exact piece_placed (around_covered n halt p hp) (output_headers 0 0 segments)
      (around_standsIn n halt p hp)

-- Without context an insertion has no line of the old file, and it gives the number of the line
-- before.
example : Hunk.ofScript ["a", "b"] ["a", "x", "b"] (editScript ["a", "b"] ["a", "x", "b"]) 0 =
    .ok [⟨1, 0, 2, 1, [.added "x" 2]⟩] := by decide +kernel

end ReviewDiff
