import ReviewDiff.Proofs.Diff.Pieces
import ReviewDiff.Proofs.Diff.Windows

/-!
# How pieces lie in the output

The pieces cut from segments stand in the output of the segments one after the other. Between two of
them, and behind the last, only unchanged lines are left out, and where lines are left out the
pieces keep a whole context. Each piece is covered by the contexts of its own changes.
-/

set_option autoImplicit false

namespace ReviewDiff

open Segment Piece

/-- The lines are those of the pieces and unchanged lines that are skipped between two of them and
behind the last. -/
inductive Laid (n : Nat) : List DiffLine → List Piece → Prop
  | last (p : Piece) (tail : List Points) (hends : tail ≠ [] → EndsCalm n p.lines) :
      Laid n (p.lines ++ contexts p.oldStop p.newStop tail) [p]
  | next (p q : Piece) (gap : List Points) {lines : List DiffLine} {rest : List Piece}
      (hgap : gap ≠ []) (hends : EndsCalm n p.lines) (hstarts : StartsCalm n q.lines)
      (hold : q.old = p.oldStop + gap.length) (hnew : q.new = p.newStop + gap.length)
      (hrest : Laid n lines (q :: rest)) :
      Laid n (p.lines ++ (contexts p.oldStop p.newStop gap ++ lines)) (p :: q :: rest)

theorem contexts_calm (i j : Nat) (texts : List Points) : Calm (contexts i j texts) := by
  intro line hline
  obtain ⟨t, ht, rfl⟩ := List.mem_mapIdx.mp hline
  rfl

theorem changed_lines (i j : Nat) (removed added : List Points) :
    ∀ line ∈ Segment.lines i j (.changed removed added), line.isChange := by
  intro line hline
  rcases List.mem_append.mp hline with hmem | hmem
  · obtain ⟨t, ht, rfl⟩ := List.mem_mapIdx.mp hmem
    rfl
  · obtain ⟨t, ht, rfl⟩ := List.mem_mapIdx.mp hmem
    rfl

theorem changed_lines_ne (i j : Nat) {removed added : List Points}
    (h : removed ≠ [] ∨ added ≠ []) : Segment.lines i j (.changed removed added) ≠ [] := by
  refine List.ne_nil_of_length_pos ?_
  rw [Segment.lines, List.length_append, removals_length, additions_length]
  rcases h with hne | hne
  · have := List.length_pos_iff.mpr hne
    omega
  · have := List.length_pos_iff.mpr hne
    omega

theorem laid_onto {n i j : Nat} (segment : Segment Points) {first : List (Segment Points)}
    {lines : List DiffLine} {rest : List Piece}
    (h : Laid n lines (⟨i + segment.old.length, j + segment.new.length, first⟩ :: rest)) :
    Laid n (segment.lines i j ++ lines) (⟨i, j, segment :: first⟩ :: rest) := by
  have hold : Piece.oldStop ⟨i, j, segment :: first⟩ =
      Piece.oldStop ⟨i + segment.old.length, j + segment.new.length, first⟩ := by
    simp [Piece.oldStop, Nat.add_assoc]
  have hnew : Piece.newStop ⟨i, j, segment :: first⟩ =
      Piece.newStop ⟨i + segment.old.length, j + segment.new.length, first⟩ := by
    simp [Piece.newStop, Nat.add_assoc]
  cases h with
  | last _ tail hends =>
    rw [← List.append_assoc, ← hold, ← hnew]
    exact .last ⟨i, j, segment :: first⟩ tail fun hne => endsCalm_append _ (hends hne)
  | next _ q gap hgap hends hstarts hq hq' hrest =>
    rw [← List.append_assoc, ← hold, ← hnew]
    rw [← hold] at hq
    rw [← hnew] at hq'
    exact .next ⟨i, j, segment :: first⟩ q gap hgap (endsCalm_append _ hends) hstarts hq hq' hrest

theorem closing_stop {α : Type} (n i : Nat) (texts : List α) :
    i + (texts.length - n) + (texts.drop (texts.length - n)).length = i + texts.length := by
  rw [List.length_drop]
  omega

theorem closing_le {α : Type} (n : Nat) (texts : List α) :
    (texts.drop (texts.length - n)).length ≤ n := by
  rw [List.length_drop]
  omega

theorem long_split {α : Type} {n : Nat} {texts : List α} (h : 2 * n < texts.length) :
    ∃ middle, middle.length + 2 * n = texts.length ∧
      texts = texts.take n ++ (middle ++ texts.drop (texts.length - n)) := by
  refine ⟨(texts.drop n).take (texts.length - 2 * n), ?_, ?_⟩
  · rw [List.length_take, List.length_drop]
    omega
  · have hdrop : texts.drop (texts.length - n) = (texts.drop n).drop (texts.length - 2 * n) := by
      rw [List.drop_drop, show n + (texts.length - 2 * n) = texts.length - n by omega]
    rw [hdrop, List.take_append_drop, List.take_append_drop]

theorem kept_lines (i j : Nat) (texts : List Points) :
    Piece.lines ⟨i, j, [.kept texts]⟩ = contexts i j texts := List.append_nil _

theorem kept_starts (i j : Nat) (texts : List Points) (rest : List (Segment Points)) :
    StartsCalm texts.length (Piece.lines ⟨i, j, .kept texts :: rest⟩) :=
  startsCalm_append _ (calm_starts (contexts_calm i j texts) (contexts_length i j texts))

theorem kept_ends (i j : Nat) (texts : List Points) :
    EndsCalm texts.length (Piece.lines ⟨i, j, [.kept texts]⟩) := by
  rw [kept_lines]
  exact calm_ends (contexts_calm i j texts) (contexts_length i j texts)

theorem laid_end (n i j : Nat) (texts : List Points) :
    Laid n (output i j [.kept texts]) [⟨i, j, [.kept (texts.take n)]⟩] := by
  have hsplit := contexts_append i j (texts.take n) (texts.drop n)
  rw [List.take_append_drop] at hsplit
  have hlines : output i j [.kept texts] = Piece.lines ⟨i, j, [.kept (texts.take n)]⟩ ++
      contexts (Piece.oldStop ⟨i, j, [.kept (texts.take n)]⟩)
        (Piece.newStop ⟨i, j, [.kept (texts.take n)]⟩) (texts.drop n) := by
    rw [kept_lines]
    simpa [output, walk, Segment.lines, Piece.oldStop, Piece.newStop, Segment.old,
      Segment.new] using hsplit
  rw [hlines]
  refine .last _ _ fun hne => ?_
  have hlen : n < texts.length := by
    by_contra hle
    exact hne (List.drop_eq_nil_of_le (by omega))
  have hends := kept_ends i j (texts.take n)
  rwa [List.length_take, Nat.min_eq_left (by omega)] at hends

theorem laid_split {n i j : Nat} {texts : List Points} {first : List (Segment Points)}
    {lines : List DiffLine} {rest : List Piece} (hlong : 2 * n < texts.length)
    (h : Laid n lines (⟨i + texts.length, j + texts.length, first⟩ :: rest)) :
    Laid n (contexts i j texts ++ lines) (⟨i, j, [.kept (texts.take n)]⟩ ::
      ⟨i + (texts.length - n), j + (texts.length - n),
        .kept (texts.drop (texts.length - n)) :: first⟩ :: rest) := by
  obtain ⟨middle, hmiddle, htexts⟩ := long_split hlong
  have hfront : (texts.take n).length = n := by
    rw [List.length_take]
    omega
  have hback : (texts.drop (texts.length - n)).length = n := by
    rw [List.length_drop]
    omega
  rw [← closing_stop n i texts, ← closing_stop n j texts] at h
  have hrest := laid_onto (.kept (texts.drop (texts.length - n))) h
  have hskip (i : Nat) : i + n + middle.length = i + (texts.length - n) := by omega
  -- The end of one piece, the lines that are skipped, and the start of the next piece.
  have hlines : contexts i j texts = contexts i j (texts.take n) ++
      (contexts (i + n) (j + n) middle ++
        contexts (i + (texts.length - n)) (j + (texts.length - n))
          (texts.drop (texts.length - n))) := by
    conv_lhs => rw [htexts]
    rw [contexts_append, contexts_append, hfront, hskip i, hskip j]
  have hstarts := kept_starts (i + (texts.length - n)) (j + (texts.length - n))
    (texts.drop (texts.length - n)) first
  have hends := kept_ends i j (texts.take n)
  rw [hback] at hstarts
  rw [hfront] at hends
  have hold : Piece.oldStop ⟨i, j, [.kept (texts.take n)]⟩ = i + n := by
    rw [← hfront]
    simp [Piece.oldStop, Segment.old]
  have hnew : Piece.newStop ⟨i, j, [.kept (texts.take n)]⟩ = j + n := by
    rw [← hfront]
    simp [Piece.newStop, Segment.new]
  have hgap : middle ≠ [] := List.ne_nil_of_length_pos (by omega)
  have hnext := Laid.next _ _ middle hgap hends hstarts (by rw [hold, hskip i])
    (by rw [hnew, hskip j]) hrest
  rw [kept_lines, hold, hnew] at hnext
  rwa [hlines, List.append_assoc, List.append_assoc]

theorem cut_laid (n i j : Nat) (segments : List (Segment Points)) :
    Laid n (output i j segments) (cut n i j segments) := by
  induction segments generalizing i j with
  | nil => exact .last ⟨i, j, []⟩ [] (by simp)
  | cons segment rest ih =>
    have hrest := ih (i + segment.old.length) (j + segment.new.length)
    obtain ⟨first, later, hcut⟩ :=
      cut_first n (i + segment.old.length) (j + segment.new.length) rest
    rw [hcut] at hrest
    have honto := laid_onto segment hrest
    cases segment with
    | changed removed added =>
      rw [cut_changed, show cut n (i + removed.length) (j + added.length) rest = _ from hcut]
      exact honto
    | kept texts =>
      by_cases hempty : rest = []
      · subst hempty
        exact laid_end n i j texts
      · rw [cut_kept n i j texts hempty,
          show cut n (i + texts.length) (j + texts.length) rest = _ from hcut]
        by_cases hlong : 2 * n < texts.length
        · rw [if_pos hlong]
          exact laid_split hlong hrest
        · rw [if_neg hlong]
          exact honto

theorem kept_covered {n i j : Nat} {texts : List Points} {first : List (Segment Points)}
    (hlen : texts.length ≤ n)
    (hchange : ChangeAt (output (i + texts.length) (j + texts.length) first) 0)
    (hcovered : Covered n (output (i + texts.length) (j + texts.length) first)) :
    Covered n (Piece.lines ⟨i, j, .kept texts :: first⟩) := by
  refine gap_covered ?_ hchange hcovered
  change (contexts i j texts).length ≤ n
  rwa [contexts_length]

/-- Behind a change, the lines of the first piece trail it and all other pieces are covered. If the
segments start with a change, so does the first piece, and it is covered itself. -/
theorem cut_covered (n : Nat) {turn : Bool} {segments : List (Segment Points)}
    (h : Alternate turn segments) (i j : Nat) :
    ∃ first rest, cut n i j segments = ⟨i, j, first⟩ :: rest ∧ Trails n (output i j first) ∧
      (∀ p ∈ rest, Covered n p.lines) ∧
      (turn = false → segments ≠ [] →
        ChangeAt (output i j first) 0 ∧ Covered n (output i j first)) := by
  induction h generalizing i j with
  | nil => exact ⟨[], [], rfl, short_trails (Nat.zero_le n), by simp, by simp⟩
  | @changed removed added rest hlines _ ih =>
    obtain ⟨first, later, hcut, htrails, hlater, -⟩ := ih (i + removed.length) (j + added.length)
    have hne := changed_lines_ne i j hlines
    have hchanges := changed_lines i j removed added
    have hcovered := changes_covered hne hchanges htrails
    have hfirst := changes_changeAt (output (i + removed.length) (j + added.length) first) hchanges
      (List.length_pos_iff.mpr hne)
    exact ⟨.changed removed added :: first, later, by rw [cut_changed, hcut]; rfl,
      fun p hp => .inr (hcovered.near p hp), hlater, fun _ _ => ⟨hfirst, hcovered⟩⟩
  | @kept texts rest _ _ ih =>
    have htake : Trails n (output i j [.kept (texts.take n)]) := by
      rw [show output i j [.kept (texts.take n)] = _ from kept_lines i j (texts.take n)]
      refine short_trails ?_
      rw [contexts_length, List.length_take]
      omega
    by_cases hempty : rest = []
    · subst hempty
      exact ⟨_, [], rfl, htake, by simp, by simp⟩
    · obtain ⟨first, later, hcut, -, hlater, hfirst⟩ := ih (i + texts.length) (j + texts.length)
      obtain ⟨hchange, hcovered⟩ := hfirst rfl hempty
      rw [cut_kept n i j texts hempty, hcut]
      by_cases hlong : 2 * n < texts.length
      · -- What is left of the segment in the second piece precedes a change.
        rw [if_pos hlong]
        rw [← closing_stop n i texts, ← closing_stop n j texts] at hchange hcovered
        exact ⟨_, _, rfl, htake, List.forall_mem_cons.mpr
          ⟨kept_covered (closing_le n texts) hchange hcovered, hlater⟩, by simp⟩
      · rw [if_neg hlong]
        refine ⟨_, _, rfl, gap_trails ?_ hchange hcovered, hlater, by simp⟩
        change (contexts i j texts).length ≤ 2 * n
        rw [contexts_length]
        omega

theorem around_cut (n : Nat) (texts : List Points) {rest : List (Segment Points)}
    (hrest : rest ≠ []) : around n (.kept texts :: rest) =
      cut n (0 + (texts.length - n)) (0 + (texts.length - n))
        (.kept (texts.drop (texts.length - n)) :: rest) := by
  cases rest with
  | nil => exact absurd rfl hrest
  | cons segment rest => simp only [around, Nat.zero_add]

theorem around_kept (n : Nat) (texts : List Points) {rest : List (Segment Points)}
    (hrest : rest ≠ []) : around n (.kept texts :: rest) =
      onto (0 + (texts.length - n)) (0 + (texts.length - n)) (.kept (texts.drop (texts.length - n)))
        (cut n (0 + texts.length) (0 + texts.length) rest) := by
  have hshort : ¬ 2 * n < (texts.drop (texts.length - n)).length := by
    have := closing_le n texts
    omega
  rw [around_cut n texts hrest, cut_kept _ _ _ _ hrest, if_neg hshort, closing_stop]

theorem around_covered (n : Nat) {turn : Bool} {segments : List (Segment Points)}
    (h : Alternate turn segments) : ∀ p ∈ around n segments, Covered n p.lines := by
  cases h with
  | nil => simp [around]
  | @changed removed added rest hlines halt =>
    have h : Alternate false (.changed removed added :: rest) := .changed hlines halt
    obtain ⟨first, later, hcut, -, hlater, hfirst⟩ := cut_covered n h 0 0
    rw [around, hcut]
    exact List.forall_mem_cons.mpr ⟨(hfirst rfl (List.cons_ne_nil _ _)).2, hlater⟩
  | @kept texts rest _ halt =>
    by_cases hempty : rest = []
    · subst hempty
      simp [around]
    · obtain ⟨first, later, hcut, -, hlater, hfirst⟩ :=
        cut_covered n halt (0 + texts.length) (0 + texts.length)
      obtain ⟨hchange, hcovered⟩ := hfirst rfl hempty
      rw [around_kept n texts hempty, hcut]
      rw [← closing_stop n 0 texts] at hchange hcovered
      exact List.forall_mem_cons.mpr ⟨kept_covered (closing_le n texts) hchange hcovered, hlater⟩

/-- Unchanged lines are left out in front of the first piece, which keeps a whole context then. -/
theorem around_laid (n : Nat) {turn : Bool} {segments : List (Segment Points)}
    (h : Alternate turn segments) :
    ∃ lead lines, output 0 0 segments = contexts 0 0 lead ++ lines ∧
      ((around n segments = [] ∧ lines = []) ∨
        ∃ p rest, around n segments = p :: rest ∧ Laid n lines (p :: rest) ∧
          (∀ side, p.start side = lead.length) ∧ (lead ≠ [] → StartsCalm n p.lines)) := by
  cases h with
  | nil => exact ⟨[], [], rfl, .inl ⟨rfl, rfl⟩⟩
  | @changed removed added rest _ _ =>
    obtain ⟨first, later, hcut⟩ := cut_first n 0 0 (.changed removed added :: rest)
    have hlaid := cut_laid n 0 0 (.changed removed added :: rest)
    rw [hcut] at hlaid
    exact ⟨[], _, rfl, .inr ⟨_, _, hcut, hlaid, fun side => by cases side <;> rfl, absurd rfl⟩⟩
  | @kept texts rest _ _ =>
    by_cases hempty : rest = []
    · subst hempty
      exact ⟨texts, [], rfl, .inl ⟨rfl, rfl⟩⟩
    · obtain ⟨first, later, hcut⟩ := cut_first n (0 + texts.length) (0 + texts.length) rest
      have hlaid := cut_laid n (0 + texts.length) (0 + texts.length) rest
      rw [hcut, ← closing_stop n 0 texts] at hlaid
      have honto := laid_onto (.kept (texts.drop (texts.length - n))) hlaid
      rw [closing_stop] at honto
      have hlead : (texts.take (texts.length - n)).length = 0 + (texts.length - n) := by
        rw [List.length_take]
        omega
      have hsplit := contexts_append 0 0 (texts.take (texts.length - n))
        (texts.drop (texts.length - n))
      rw [List.take_append_drop, hlead, Nat.zero_add] at hsplit
      refine ⟨texts.take (texts.length - n), _, ?_, .inr ⟨_, _, ?_, honto, fun side => ?_,
        fun hne => ?_⟩⟩
      · change contexts 0 0 texts ++ _ = _
        rw [hsplit, List.append_assoc]
        rfl
      · rw [around_kept n texts hempty, hcut]
        rfl
      · rw [hlead]
        cases side <;> rfl
      · have hstarts := kept_starts (0 + (texts.length - n)) (0 + (texts.length - n))
          (texts.drop (texts.length - n)) first
        have hpos := List.length_pos_iff.mpr hne
        rwa [List.length_drop, show texts.length - (texts.length - n) = n by omega] at hstarts

@[simp] theorem contexts_changes (i j : Nat) (texts : List Points) :
    (contexts i j texts).filter (·.isChange) = [] := by
  rw [List.filter_eq_nil_iff]
  intro line hline
  rw [contexts_calm i j texts line hline]
  exact Bool.false_ne_true

theorem laid_changes {n : Nat} {lines : List DiffLine} {pieces : List Piece}
    (h : Laid n lines pieces) :
    (pieces.flatMap Piece.lines).filter (·.isChange) = lines.filter (·.isChange) := by
  induction h with
  | last p tail _ => simp
  | next p q gap _ _ _ _ _ _ ih =>
    rw [List.flatMap_cons, List.filter_append, ih, List.filter_append, List.filter_append,
      contexts_changes, List.nil_append]

theorem around_changes (n : Nat) {turn : Bool} {segments : List (Segment Points)}
    (h : Alternate turn segments) :
    ((around n segments).flatMap Piece.lines).filter (·.isChange) =
      (output 0 0 segments).filter (·.isChange) := by
  obtain ⟨lead, lines, houtput, ⟨hnone, rfl⟩ | ⟨p, rest, hpieces, hlaid, -⟩⟩ := around_laid n h
  · rw [houtput, hnone, List.append_nil, contexts_changes]
    rfl
  · rw [houtput, hpieces, laid_changes hlaid, List.filter_append, contexts_changes, List.nil_append]

theorem output_file {lead : List Points} {lines : List DiffLine}
    {segments : List (Segment Points)} (h : output 0 0 segments = contexts 0 0 lead ++ lines)
    (side : DiffSide) : file side segments = lead ++ sideTexts side lines := by
  rw [← sideTexts_output side 0 0, h, sideTexts_append, sideTexts_contexts]

theorem piece_sideTexts (side : DiffSide) (p : Piece) :
    sideTexts side p.lines = file side p.segments := sideTexts_output ..

theorem next_start (side : DiffSide) {p q : Piece} {gap : List Points}
    (hold : q.old = p.oldStop + gap.length) (hnew : q.new = p.newStop + gap.length) :
    q.start side = p.start side + (sideTexts side p.lines).length + gap.length := by
  rw [piece_sideTexts]
  cases side with
  | old => exact hold
  | new => exact hnew

/-- The lines hold those of the piece, behind as many lines of either file as stand before it. -/
def Piece.StandsIn (lines : List DiffLine) (p : Piece) : Prop :=
  ∃ before after, lines = before ++ (p.lines ++ after) ∧
    ∀ side, (sideTexts side before).length = p.start side

theorem Piece.StandsIn.partOf {segments : List (Segment Points)} {p : Piece}
    (h : p.StandsIn (output 0 0 segments)) (side : DiffSide) :
    p.PartOf side (file side segments) := by
  obtain ⟨before, after, houtput, hbefore⟩ := h
  refine ⟨sideTexts side before, sideTexts side after, ?_, hbefore side⟩
  rw [← sideTexts_output side 0 0, houtput, sideTexts_append, sideTexts_append, piece_sideTexts]

theorem laid_standsIn {n : Nat} {lines : List DiffLine} {pieces : List Piece}
    (h : Laid n lines pieces) {before : List DiffLine}
    (hstart : ∀ p ∈ pieces.head?, ∀ side, (sideTexts side before).length = p.start side) :
    ∀ q ∈ pieces, q.StandsIn (before ++ lines) := by
  induction h generalizing before with
  | last p tail _ => exact List.forall_mem_singleton.mpr ⟨before, _, rfl, hstart p rfl⟩
  | @next p q gap lines rest _ _ _ hold hnew _ ih =>
    have hfirst := hstart p rfl
    have hnext (side : DiffSide) : (sideTexts side
        (before ++ (p.lines ++ contexts p.oldStop p.newStop gap))).length = q.start side := by
      rw [next_start side hold hnew, ← hfirst side, sideTexts_append, sideTexts_append,
        sideTexts_contexts, List.length_append, List.length_append, Nat.add_assoc]
    have hrest := ih fun r hr => Option.some.inj hr ▸ hnext
    rw [List.append_assoc, List.append_assoc] at hrest
    exact List.forall_mem_cons.mpr ⟨⟨before, _, rfl, hfirst⟩, hrest⟩

theorem around_standsIn (n : Nat) {turn : Bool} {segments : List (Segment Points)}
    (h : Alternate turn segments) : ∀ p ∈ around n segments, p.StandsIn (output 0 0 segments) := by
  obtain ⟨lead, lines, houtput, ⟨hnone, -⟩ | ⟨p, rest, hpieces, hlaid, hstart, -⟩⟩ :=
    around_laid n h
  · simp [hnone]
  · rw [hpieces, houtput]
    refine laid_standsIn hlaid fun q hq side => ?_
    rw [sideTexts_contexts, ← Option.some.inj hq, hstart side]

end ReviewDiff
