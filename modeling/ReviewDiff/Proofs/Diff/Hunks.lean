import ReviewDiff.Proofs.Diff.Layout
import ReviewDiff.Proofs.Diff.Shortest

/-!
# The hunks of a script

The hunks of the script between two files are those of the pieces around its changes, and making
them never fails. They show the complete output exactly where it is within the context of a change:
each hunk is a maximal run of such lines.
-/

set_option autoImplicit false

namespace ReviewDiff

open Segment Piece

theorem changed_blocks_nil {α : Type} {i j : Nat} {removed added : List α}
    (h : Segment.blocks i j (.changed removed added) = []) : removed = [] ∧ added = [] := by
  obtain ⟨hremoved, hadded⟩ := List.append_eq_nil_iff.mp h
  constructor
  · by_contra hne
    simp [hne] at hremoved
  · by_contra hne
    simp [hne] at hadded

theorem calm_blocks {i j : Nat} {segments : List (Segment Points)}
    (h : (walk Segment.blocks i j segments).all Block.isEqual = true) :
    Calm (output i j segments) := by
  induction segments generalizing i j with
  | nil => exact fun _ hline => absurd hline List.not_mem_nil
  | cons segment rest ih =>
    rw [walk, List.all_append, Bool.and_eq_true] at h
    refine calm_append ?_ (ih h.2)
    cases segment with
    | kept texts => exact contexts_calm i j texts
    | changed removed added =>
      have hempty : Segment.blocks i j (.changed removed added) = [] := by
        refine List.eq_nil_iff_forall_not_mem.mpr fun b hb => ?_
        have hequal := List.all_eq_true.mp h.1 b hb
        rw [changed_blocks i j removed added b hb] at hequal
        exact Bool.false_ne_true hequal
      obtain ⟨rfl, rfl⟩ := changed_blocks_nil hempty
      exact fun _ hline => absurd hline List.not_mem_nil

theorem covered_blocks {n : Nat} {p : Piece} (h : Covered n p.lines) :
    p.blocks.all Block.isEqual = false := by
  obtain ⟨q, hq⟩ := h.changed
  refine Bool.eq_false_iff.mpr fun hall => ?_
  exact calm_changeAt (calm_blocks hall) q hq

theorem around_filter (n : Nat) {turn : Bool} {segments : List (Segment Points)}
    (h : Alternate turn segments) :
    ((around n segments).map Piece.blocks).filter (fun group => !group.all Block.isEqual) =
      (around n segments).map Piece.blocks := by
  refine List.filter_eq_self.mpr fun group hgroup => ?_
  obtain ⟨p, hp, rfl⟩ := List.mem_map.mp hgroup
  rw [covered_blocks (around_covered n h p hp)]
  rfl

theorem trimFirst_kept (n : Nat) (texts : List Points) (rest : List (Segment Points)) :
    Block.trimFirst n (walk Segment.blocks 0 0 (.kept texts :: rest)) =
      walk Segment.blocks (0 + (texts.length - n)) (0 + (texts.length - n))
        (.kept (texts.drop (texts.length - n)) :: rest) := by
  have hwalk : walk Segment.blocks 0 0 (.kept texts :: rest) =
      ⟨.equal, .ofSize 0 texts.length, .ofSize 0 texts.length⟩ ::
        walk Segment.blocks (0 + texts.length) (0 + texts.length) rest := rfl
  rw [hwalk, Block.trimFirst, closing_kept, ← closing_stop n 0 texts]
  simp only [walk, Segment.old, Segment.new, Segment.blocks, List.length_drop,
    List.singleton_append]

theorem groups_around (n : Nat) {turn : Bool} {segments : List (Segment Points)}
    (h : Alternate turn segments) :
    Block.groups n (walk Segment.blocks 0 0 segments) = (around n segments).map Piece.blocks := by
  rw [← around_filter n h]
  cases h with
  | nil => rfl
  | @changed removed added rest hlines halt =>
    have h : Alternate false (.changed removed added :: rest) := .changed hlines halt
    have hcut := cut_cutsAlike n h 0 0
    obtain ⟨b, blocks, hblocks, hb⟩ := walk_changed h (List.cons_ne_nil _ _) 0 0
    rw [CutsAlike, hblocks] at hcut
    have hall : ¬ (b :: blocks).all Block.isEqual = true := by simp [hb]
    have hclosing : b.closing n = b := by simp [Block.closing, hb]
    rw [hblocks, Block.groups, if_neg hall, Block.trimFirst, hclosing, hcut]
    rfl
  | @kept texts rest _ halt =>
    by_cases hempty : rest = []
    · subst hempty
      rfl
    · obtain ⟨b, blocks, hblocks, hb⟩ :=
        walk_changed halt hempty (0 + texts.length) (0 + texts.length)
      have hall : ¬ (walk Segment.blocks 0 0 (.kept texts :: rest)).all Block.isEqual = true := by
        change ¬ (_ :: walk Segment.blocks (0 + texts.length) (0 + texts.length) rest).all _ = true
        rw [hblocks]
        simp [hb]
      have hrest := cut_cutsAlike n halt (0 + texts.length) (0 + texts.length)
      rw [← closing_stop n 0 texts] at hrest
      have hcut := kept_cutsAlike (texts.drop (texts.length - n)) halt hrest
      rw [CutsAlike, ← around_cut n texts hempty] at hcut
      rw [Block.groups, if_neg hall, trimFirst_kept, hcut]

theorem mapM_ok {α β γ ε : Type} {f : β → Except ε γ} {g : α → β} {h : α → γ} {items : List α}
    (hf : ∀ item ∈ items, f (g item) = .ok (h item)) :
    (items.map g).mapM f = .ok (items.map h) := by
  induction items with
  | nil => rfl
  | cons item rest ih =>
    rw [List.map_cons, List.mapM_cons, hf item (List.mem_cons_self ..),
      ih fun next hnext => hf next (List.mem_cons_of_mem item hnext)]
    rfl

theorem ofScript_around (n : Nat) {turn : Bool} {segments : List (Segment Points)}
    (h : Alternate turn segments) :
    Hunk.ofScript (olds segments) (news segments) (Script.ofRuns 0 0 (segments.map run)) n =
      .ok ((around n segments).map Piece.hunk) := by
  have hnonneg : ¬ (n : Int) < 0 := by omega
  have hmake : ((around n segments).map Piece.blocks).mapM
      (Hunk.ofGroup (olds segments).toArray (news segments).toArray) =
        .ok ((around n segments).map Piece.hunk) := by
    refine mapM_ok fun p hp => ?_
    have hstands := around_standsIn n h p hp
    refine ofGroup_piece (hstands.partOf .old) (hstands.partOf .new) fun hnil => ?_
    have hblocks := covered_blocks (around_covered n h p hp)
    rw [hnil] at hblocks
    exact Bool.noConfusion hblocks
  have hscript : Block.ofScript (Script.ofRuns 0 0 (segments.map run)) =
      walk Segment.blocks 0 0 segments := by
    rw [Block.ofScript, ofRuns_walk]
    exact ofScriptFrom_walk 0 0 segments
  rw [Hunk.ofScript, if_neg hnonneg, hscript, groups_around n h, hmake]

theorem editScript_segments (old new : List Points) :
    ∃ turn segments, Alternate turn segments ∧ olds segments = old ∧ news segments = new ∧
      editScript? old new = some (editScript old new) ∧
      editScript old new = Script.ofRuns 0 0 (segments.map run) := by
  obtain ⟨steps, hsome, hscript, hedits, -⟩ := editScript_ofSteps old new
  obtain ⟨turn, segments, hruns, hold, hnew, halt⟩ := runs_segments hedits
  rw [Script.ofSteps, hruns] at hscript
  exact ⟨turn, segments, halt, hold, hnew, hsome, hscript⟩

/-- The two outputs of the script between two files come from the same segments. -/
theorem editScript_outputs (old new : List Points) :
    ∃ turn segments, Alternate turn segments ∧ olds segments = old ∧ news segments = new ∧
      editScript? old new = some (editScript old new) ∧
      completeLines old new (editScript old new) = .ok (output 0 0 segments) ∧
      ∀ n : Nat, Hunk.ofScript old new (editScript old new) n =
        .ok ((around n segments).map Piece.hunk) := by
  obtain ⟨turn, segments, halt, rfl, rfl, hsome, hscript⟩ := editScript_segments old new
  rw [hscript]
  exact ⟨turn, segments, halt, rfl, rfl, hscript ▸ hsome, completeLines_segments segments,
    fun n => ofScript_around n halt⟩

theorem laid_starts {n : Nat} {lines : List DiffLine} {pieces : List Piece}
    (h : Laid n lines pieces) (hstarts : ∀ p ∈ pieces.head?, StartsCalm n p.lines) :
    StartsCalm n lines := by
  cases h with
  | last p tail _ => exact startsCalm_append _ (hstarts p rfl)
  | next p q gap _ _ _ _ _ _ => exact startsCalm_append _ (hstarts p rfl)

theorem laid_runs {n : Nat} {lines : List DiffLine} {pieces : List Piece}
    (h : Laid n lines pieces) (hcovered : ∀ p ∈ pieces, Covered n p.lines) :
    ∃ runs, MaximalRuns (Near n lines) lines.length runs ∧
      pieces.map Piece.lines = runs.map (Stretch.slice lines) := by
  induction h with
  | last p tail hends =>
    have hcalm := contexts_calm p.oldStop p.newStop tail
    have hends (hne : contexts p.oldStop p.newStop tail ≠ []) : EndsCalm n p.lines := by
      refine hends fun hnil => hne ?_
      rw [hnil, contexts_nil]
    refine ⟨_, runs_covered (hcovered p (List.mem_cons_self ..)) hends
      (fun q hq => absurd hq (calm_changeAt hcalm q)) (runs_calm hcalm), ?_⟩
    simp [Stretch.slice_front]
  | @next p q gap lines rest hgap hends hstarts _ _ hrest ih =>
    obtain ⟨runs, hruns, hslices⟩ := ih fun r hr => hcovered r (List.mem_cons_of_mem p hr)
    have hcalm := contexts_calm p.oldStop p.newStop gap
    have hlines : StartsCalm n lines := laid_starts hrest fun r hr => Option.some.inj hr ▸ hstarts
    have hfar (t : Nat) (ht : ChangeAt (contexts p.oldStop p.newStop gap ++ lines) t) : n < t := by
      rcases (changeAt_append ..).mp ht with hleft | ⟨hge, hright⟩
      · exact absurd hleft (calm_changeAt hcalm t)
      · have hpos := List.length_pos_iff.mpr hgap
        have := hlines.2 _ hright
        rw [contexts_length] at hge this
        omega
    refine ⟨_, runs_covered (hcovered p (List.mem_cons_self ..)) (fun _ => hends) hfar
      (runs_gap hcalm (fun _ => hlines) hruns), ?_⟩
    rw [List.map_cons, hslices, List.map_cons, Stretch.slice_front, List.map_map, List.map_map]
    refine congrArg _ (List.map_congr_left fun s _ => ?_)
    rw [Function.comp_apply, Function.comp_apply, Stretch.slice_shift, Stretch.slice_shift]

theorem around_runs (n : Nat) {turn : Bool} {segments : List (Segment Points)}
    (h : Alternate turn segments) :
    ∃ runs, MaximalRuns (Near n (output 0 0 segments)) (output 0 0 segments).length runs ∧
      (around n segments).map Piece.lines = runs.map (Stretch.slice (output 0 0 segments)) := by
  have hcovered := around_covered n h
  obtain ⟨lead, lines, houtput, ⟨hnone, rfl⟩ | ⟨p, rest, hpieces, hlaid, -, hstarts⟩⟩ :=
    around_laid n h
  · rw [houtput, hnone, List.append_nil]
    exact ⟨[], runs_calm (contexts_calm 0 0 lead), rfl⟩
  · rw [hpieces] at hcovered
    obtain ⟨runs, hruns, hslices⟩ := laid_runs hlaid hcovered
    have hlines (hne : contexts 0 0 lead ≠ []) : StartsCalm n lines := by
      refine laid_starts hlaid fun q hq => Option.some.inj hq ▸ hstarts fun hnil => hne ?_
      rw [hnil, contexts_nil]
    rw [houtput, hpieces]
    refine ⟨_, runs_gap (contexts_calm 0 0 lead) hlines hruns, ?_⟩
    rw [hslices, List.map_map]
    exact List.map_congr_left fun s _ => (Stretch.slice_shift ..).symm

/-- The hunks are the maximal runs of the lines of the complete output that stand within `n` lines
of a change, and there is only one list of such runs. Neighbouring changes share one if and only if
at most `2 * n` lines separate them, and there are none if and only if nothing is changed. -/
theorem hunks_windows (old new : List Points) (n : Nat) :
    ∃ complete hunks runs, editScript? old new = some (editScript old new) ∧
      completeLines old new (editScript old new) = .ok complete ∧
      Hunk.ofScript old new (editScript old new) n = .ok hunks ∧
      MaximalRuns (Near n complete) complete.length runs ∧
      (∀ others, MaximalRuns (Near n complete) complete.length others → others = runs) ∧
      hunks.map Hunk.lines = runs.map (Stretch.slice complete) ∧
      (hunks = [] ↔ Calm complete) ∧
      ∀ p q, ChangeAt complete p → ChangeAt complete q → p < q →
        (∀ t, p < t → t < q → ¬ ChangeAt complete t) →
        ((∃ s ∈ runs, s.Holds p ∧ s.Holds q) ↔ q - p - 1 ≤ 2 * n) := by
  obtain ⟨turn, segments, halt, -, -, hscript, hcomplete, hhunks⟩ := editScript_outputs old new
  obtain ⟨runs, hruns, hslices⟩ := around_runs n halt
  have hlines : ((around n segments).map Piece.hunk).map Hunk.lines =
      runs.map (Stretch.slice (output 0 0 segments)) := by
    rw [List.map_map]
    exact hslices
  have hnone : (around n segments).map Piece.hunk = [] ↔ runs = [] := by
    rw [← List.map_eq_nil_iff (f := Hunk.lines), hlines, List.map_eq_nil_iff]
  exact ⟨_, _, runs, hscript, hcomplete, hhunks n, hruns,
    fun others hothers => maximalRuns_unique hothers hruns, hlines, hnone.trans (runs_none hruns),
    fun p q hp hq hlt hbetween => runs_shared hruns hp hq hlt hbetween⟩

end ReviewDiff
