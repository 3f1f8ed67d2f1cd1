import ReviewDiff.Proofs.Diff.Header
import ReviewDiff.Proofs.Diff.Hunks

/-!
# Hunks as a patch

The output of hunks is a patch in both directions. Where to apply each hunk is read from the text of
its header alone, and what stands there has to agree with the lines of the hunk. Applied to the old
file the output gives the new one, and applied backwards to the new file it gives the old one.
-/

set_option autoImplicit false

namespace ReviewDiff

/-- What a patch makes of the rest of the file of `side`, before which `position` lines stand. Up to
the start of a hunk all lines are copied. A line on this side has to be the next one of the file,
and what is on the other side is put out. -/
def applyPatch (side : DiffSide) :
    (position : Nat) → (rest : List Points) → (patch : List DiffLine) → Option (List Points)
  | _, rest, [] => some rest
  | position, rest, .header text :: patch => do
    let header ← Header.read? text
    let start ← header.position? side
    if start < position ∨ rest.length < start - position then none
    else
      let later ← applyPatch side start (rest.drop (start - position)) patch
      return rest.take (start - position) ++ later
  | position, rest, line :: patch =>
    if line.isOn side then
      match rest with
      | [] => none
      | text :: rest =>
        if text = line.content then
          (applyPatch side (position+1) rest patch).map fun later =>
            if line.isOn side.other then text :: later else later
        else none
    else (applyPatch side position rest patch).map fun later => line.content :: later

open Segment Piece

theorem sideStart_cast (i count : Nat) :
    Hunk.sideStart i count = ((if count = 0 then i else i+1 : Nat) : Int) := by
  rw [Hunk.sideStart]
  split <;> split <;> omega

theorem begin_start (i count : Nat) :
    Header.begin? (if count = 0 then i else i+1) count = some i := by
  by_cases hcount : count = 0 <;> simp [Header.begin?, hcount]

theorem header_start (p : Piece) : ∃ header, Header.read? p.hunk.headerText = some header ∧
    ∀ side, header.position? side = some (p.start side) := by
  let oldCount := (olds p.segments).length
  let newCount := (news p.segments).length
  refine ⟨⟨if oldCount = 0 then p.old else p.old+1, oldCount,
    if newCount = 0 then p.new else p.new+1, newCount⟩, ?_, fun side => ?_⟩
  · rw [Piece.hunk, sideStart_cast, sideStart_cast]
    exact Header.read_headerText ..
  · cases side with
    | old => exact begin_start ..
    | new => exact begin_start ..

theorem applyPatch_header (side : DiffSide) {p : Piece} {position : Nat} {skipped : List Points}
    (hstart : p.start side = position + skipped.length) (rest : List Points)
    (patch : List DiffLine) :
    applyPatch side position (skipped ++ rest) (p.hunk.header :: patch) =
      (applyPatch side (p.start side) rest patch).map (skipped ++ ·) := by
  obtain ⟨header, hread, hposition⟩ := header_start p
  have hskip : p.start side - position = skipped.length := by omega
  have hinside : ¬ (p.start side < position ∨ (skipped ++ rest).length < skipped.length) := by
    rw [List.length_append]
    omega
  simp only [Hunk.header, applyPatch, hread, hposition side, Option.bind_eq_bind, Option.bind_some,
    hskip, if_neg hinside, List.drop_left, List.take_left]
  cases applyPatch side (p.start side) rest patch <;> rfl

theorem applyPatch_line (side : DiffSide) {line : DiffLine} (hline : line.kind ≠ .header)
    (position : Nat) (rest : List Points) (patch : List DiffLine) :
    applyPatch side position (sideTexts side [line] ++ rest) (line :: patch) =
      (applyPatch side (position + (sideTexts side [line]).length) rest patch).map
        (sideTexts side.other [line] ++ ·) := by
  cases line with
  | header text => exact absurd rfl hline
  | context text i j => cases side <;> simp [applyPatch, sideTexts, DiffLine.isOn, DiffLine.content]
  | added text j =>
    cases side <;> simp [applyPatch, sideTexts, DiffLine.isOn, DiffLine.content, DiffSide.other]
  | removed text i =>
    cases side <;> simp [applyPatch, sideTexts, DiffLine.isOn, DiffLine.content, DiffSide.other]

theorem applyPatch_lines (side : DiffSide) {lines : List DiffLine}
    (hlines : ∀ line ∈ lines, line.kind ≠ .header) (position : Nat) (rest : List Points)
    (patch : List DiffLine) :
    applyPatch side position (sideTexts side lines ++ rest) (lines ++ patch) =
      (applyPatch side (position + (sideTexts side lines).length) rest patch).map
        (sideTexts side.other lines ++ ·) := by
  induction lines generalizing position with
  | nil => simp [sideTexts]
  | cons line lines ih =>
    have hrest := ih fun other hother => hlines other (List.mem_cons_of_mem line hother)
    have hsplit (side : DiffSide) : sideTexts side (line :: lines) =
        sideTexts side [line] ++ sideTexts side lines := sideTexts_append side [line] lines
    rw [hsplit, hsplit, List.append_assoc, List.cons_append,
      applyPatch_line side (hlines line (List.mem_cons_self ..)), hrest, Option.map_map,
      List.length_append, Nat.add_assoc]
    simp only [Function.comp_def, List.append_assoc]

theorem output_headers (i j : Nat) (segments : List (Segment Points)) :
    ∀ line ∈ output i j segments, line.kind ≠ .header := by
  induction segments generalizing i j with
  | nil => exact fun _ hline => absurd hline List.not_mem_nil
  | cons segment rest ih =>
    intro line hline
    rcases List.mem_append.mp hline with hmem | hmem
    · cases segment with
      | kept texts =>
        obtain ⟨t, ht, rfl⟩ := List.mem_mapIdx.mp hmem
        exact LineKind.noConfusion
      | changed removed added =>
        rcases List.mem_append.mp hmem with hmem | hmem
        · obtain ⟨t, ht, rfl⟩ := List.mem_mapIdx.mp hmem
          exact LineKind.noConfusion
        · obtain ⟨t, ht, rfl⟩ := List.mem_mapIdx.mp hmem
          exact LineKind.noConfusion
    · exact ih _ _ line hmem

theorem piece_headers (p : Piece) : ∀ line ∈ p.lines, line.kind ≠ .header :=
  output_headers p.old p.new p.segments

theorem applyPatch_piece (side : DiffSide) {p : Piece} {position : Nat} {skipped : List Points}
    (hstart : p.start side = position + skipped.length) (rest : List Points)
    (patch : List DiffLine) :
    applyPatch side position (skipped ++ (sideTexts side p.lines ++ rest))
        (p.hunk.header :: (p.lines ++ patch)) =
      (applyPatch side (p.start side + (sideTexts side p.lines).length) rest patch).map
        fun later => skipped ++ (sideTexts side.other p.lines ++ later) := by
  rw [applyPatch_header side hstart, applyPatch_lines side (piece_headers p), Option.map_map]
  rfl

theorem output_cons (p : Piece) (rest : List Piece) :
    Hunk.output ((p :: rest).map Piece.hunk) =
      p.hunk.header :: (p.lines ++ Hunk.output (rest.map Piece.hunk)) := List.flatMap_cons

theorem applyPatch_laid {n : Nat} {lines : List DiffLine} {pieces : List Piece}
    (h : Laid n lines pieces) (side : DiffSide) {position : Nat} {skipped : List Points}
    (hstart : ∀ p ∈ pieces.head?, p.start side = position + skipped.length) :
    applyPatch side position (skipped ++ sideTexts side lines)
      (Hunk.output (pieces.map Piece.hunk)) = some (skipped ++ sideTexts side.other lines) := by
  induction h generalizing position skipped with
  | last p tail _ =>
    rw [sideTexts_append, sideTexts_append, sideTexts_contexts, sideTexts_contexts, output_cons,
      applyPatch_piece side (hstart p rfl)]
    rfl
  | next p q gap _ _ _ hold hnew _ ih =>
    have hrest := @ih (p.start side + (sideTexts side p.lines).length) gap fun r hr =>
      Option.some.inj hr ▸ next_start side hold hnew
    rw [sideTexts_append, sideTexts_append, sideTexts_append, sideTexts_append, sideTexts_contexts,
      sideTexts_contexts, output_cons, applyPatch_piece side (hstart p rfl), hrest]
    rfl

theorem applyPatch_around (n : Nat) {turn : Bool} {segments : List (Segment Points)}
    (h : Alternate turn segments) (side : DiffSide) :
    applyPatch side 0 (file side segments) (Hunk.output ((around n segments).map Piece.hunk)) =
      some (file side.other segments) := by
  obtain ⟨lead, lines, houtput, ⟨hnone, rfl⟩ | ⟨p, rest, hpieces, hlaid, hstart, -⟩⟩ :=
    around_laid n h
  · rw [hnone, output_file houtput, output_file houtput]
    rfl
  · rw [hpieces, output_file houtput, output_file houtput]
    refine applyPatch_laid hlaid side fun q hq => ?_
    rw [Nat.zero_add]
    exact Option.some.inj hq ▸ hstart side

/-- The output of the hunks is a patch from the old file to the new one, and backwards. -/
theorem hunks_patch (old new : List Points) (n : Nat) :
    ∃ hunks, editScript? old new = some (editScript old new) ∧
      Hunk.ofScript old new (editScript old new) n = .ok hunks ∧
      applyPatch .old 0 old (Hunk.output hunks) = some new ∧
      applyPatch .new 0 new (Hunk.output hunks) = some old := by
  obtain ⟨turn, segments, halt, rfl, rfl, hscript, -, hhunks⟩ := editScript_outputs old new
  exact ⟨_, hscript, hhunks n, applyPatch_around n halt .old, applyPatch_around n halt .new⟩

end ReviewDiff
