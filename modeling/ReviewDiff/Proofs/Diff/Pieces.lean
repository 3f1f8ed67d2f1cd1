import ReviewDiff.Proofs.Diff.Output

/-!
# Hunks as pieces of the segments

A piece is a part of the segments with the numbers of lines before it. The blocks of a script are
cut where an unchanged block is longer than two contexts, and what comes out are the blocks of
pieces: a long kept segment leaves its first lines to one piece and its last lines to the next.
-/

set_option autoImplicit false

namespace ReviewDiff

open Segment

structure Piece where
  old : Nat
  new : Nat
  segments : List (Segment Points)

def Segment.blocks {α : Type} (i j : Nat) : Segment α → List Block
  | .kept texts => [⟨.equal, .ofSize i texts.length, .ofSize j texts.length⟩]
  | .changed removed added =>
    (if removed.length = 0 then [] else [⟨.delete, .ofSize i removed.length, .ofSize j 0⟩]) ++
      (if added.length = 0 then []
        else [⟨.insert, .ofSize (i + removed.length) 0, .ofSize j added.length⟩])

namespace Piece

def lines (p : Piece) : List DiffLine := output p.old p.new p.segments

def blocks (p : Piece) : List Block := walk Segment.blocks p.old p.new p.segments

def oldStop (p : Piece) : Nat := p.old + (olds p.segments).length

def newStop (p : Piece) : Nat := p.new + (news p.segments).length

def onto (i j : Nat) (segment : Segment Points) : List Piece → List Piece
  | [] => [⟨i, j, [segment]⟩]
  | p :: rest => ⟨i, j, segment :: p.segments⟩ :: rest

/-- The segments cut inside every kept one that is longer than two contexts of `n` lines. Of a kept
segment at the end the first `n` lines are left. -/
def cut (n i j : Nat) : List (Segment Points) → List Piece
  | [] => [⟨i, j, []⟩]
  | [.kept texts] => [⟨i, j, [.kept (texts.take n)]⟩]
  | .kept texts :: rest =>
    let later := cut n (i + texts.length) (j + texts.length) rest
    let skipped := texts.length - n
    if 2 * n < texts.length then
      ⟨i, j, [.kept (texts.take n)]⟩ ::
        onto (i + skipped) (j + skipped) (.kept (texts.drop skipped)) later
    else onto i j (.kept texts) later
  | .changed removed added :: rest =>
    onto i j (.changed removed added) (cut n (i + removed.length) (j + added.length) rest)

/-- The pieces around the changes of segments that take turns. Of a kept segment at the start the
last `n` lines are left. -/
def around (n : Nat) : List (Segment Points) → List Piece
  | [] => []
  | [.kept _] => []
  | .kept texts :: rest =>
    let skipped := texts.length - n
    cut n skipped skipped (.kept (texts.drop skipped) :: rest)
  | .changed removed added :: rest => cut n 0 0 (.changed removed added :: rest)

theorem cut_kept (n i j : Nat) (texts : List Points) {rest : List (Segment Points)}
    (hrest : rest ≠ []) : cut n i j (.kept texts :: rest) =
      if 2 * n < texts.length then
        ⟨i, j, [.kept (texts.take n)]⟩ ::
          onto (i + (texts.length - n)) (j + (texts.length - n))
            (.kept (texts.drop (texts.length - n)))
            (cut n (i + texts.length) (j + texts.length) rest)
      else onto i j (.kept texts) (cut n (i + texts.length) (j + texts.length) rest) := by
  cases rest with
  | nil => exact absurd rfl hrest
  | cons segment rest => rfl

theorem cut_changed (n i j : Nat) (removed added : List Points) (rest : List (Segment Points)) :
    cut n i j (.changed removed added :: rest) =
      onto i j (.changed removed added)
        (cut n (i + removed.length) (j + added.length) rest) := rfl

theorem cut_first (n i j : Nat) (segments : List (Segment Points)) :
    ∃ first rest, cut n i j segments = ⟨i, j, first⟩ :: rest := by
  have honto (i j : Nat) (segment : Segment Points) (pieces : List Piece) :
      ∃ first rest, onto i j segment pieces = ⟨i, j, first⟩ :: rest := by
    cases pieces with
    | nil => exact ⟨_, _, rfl⟩
    | cons p rest => exact ⟨_, _, rfl⟩
  cases segments with
  | nil => exact ⟨_, _, rfl⟩
  | cons segment rest =>
    cases segment with
    | changed removed added => exact honto ..
    | kept texts =>
      by_cases hrest : rest = []
      · subst hrest
        exact ⟨_, _, rfl⟩
      · rw [cut_kept n i j texts hrest]
        split
        · exact ⟨_, _, rfl⟩
        · exact honto ..

end Piece

open Piece

theorem ofScriptFrom_changed {α : Type} (i j : Nat) (removed added : List α) (script : Script) :
    Block.ofScriptFrom i j (edits i j (.changed removed added) ++ script) =
      Segment.blocks i j (.changed removed added) ++
        Block.ofScriptFrom (i + removed.length : Nat) (j + added.length : Nat) script := by
  cases removed with
  | nil =>
    cases added with
    | nil => rfl
    | cons line rest =>
      simp [edits, Segment.blocks, Block.ofScriptFrom, Span.ofSize]
  | cons line rest =>
    cases added with
    | nil => simp [edits, Segment.blocks, Block.ofScriptFrom, Span.ofSize]
    | cons line' rest' => simp [edits, Segment.blocks, Block.ofScriptFrom, Span.ofSize]

theorem ofScriptFrom_walk {α : Type} (i j : Nat) (segments : List (Segment α)) :
    Block.ofScriptFrom i j (walk edits i j segments) = walk Segment.blocks i j segments := by
  induction segments generalizing i j with
  | nil => rfl
  | cons segment rest ih =>
    rw [walk, walk, ← ih]
    cases segment with
    | kept texts => rfl
    | changed removed added => exact ofScriptFrom_changed i j removed added _

theorem changed_blocks {α : Type} (i j : Nat) (removed added : List α) :
    ∀ b ∈ Segment.blocks i j (.changed removed added), b.isEqual = false := by
  intro b hb
  rcases List.mem_append.mp hb with hmem | hmem
  · split at hmem
    · simp at hmem
    · rw [List.mem_singleton.mp hmem]
      rfl
  · split at hmem
    · simp at hmem
    · rw [List.mem_singleton.mp hmem]
      rfl

theorem trimLast_cons (n : Int) (b : Block) {blocks : List Block} (h : blocks ≠ []) :
    Block.trimLast n (b :: blocks) = b :: Block.trimLast n blocks := by
  cases blocks with
  | nil => exact absurd rfl h
  | cons c rest => rfl

theorem trimLast_changes (n : Int) {changes : List Block} (blocks : List Block)
    (h : ∀ b ∈ changes, b.isEqual = false) :
    Block.trimLast n (changes ++ blocks) = changes ++ Block.trimLast n blocks := by
  induction changes with
  | nil => rfl
  | cons b rest ih =>
    have hb := h b (List.mem_cons_self ..)
    have hrest := ih fun c hc => h c (List.mem_cons_of_mem b hc)
    rw [List.cons_append, List.cons_append, ← hrest]
    by_cases hempty : rest ++ blocks = []
    · have hopening : b.opening n = b := by simp [Block.opening, hb]
      rw [hempty, Block.trimLast, Block.trimLast, hopening]
    · exact trimLast_cons n b hempty

theorem cut_changes {n : Int} {changes blocks group : List Block} {groups : List (List Block)}
    (h : ∀ b ∈ changes, b.isEqual = false) (hcut : Block.cut n blocks = group :: groups) :
    Block.cut n (changes ++ blocks) = (changes ++ group) :: groups := by
  induction changes with
  | nil => exact hcut
  | cons b rest ih =>
    have hb := h b (List.mem_cons_self ..)
    have hrest := ih fun c hc => h c (List.mem_cons_of_mem b hc)
    rw [List.cons_append, Block.cut, hrest]
    simp [Block.isLong, hb, Block.onto]

theorem opening_kept (n i j size : Nat) :
    Block.opening n ⟨.equal, .ofSize i size, .ofSize j size⟩ =
      ⟨.equal, .ofSize i (min n size), .ofSize j (min n size)⟩ := by
  simp only [Block.opening, Block.isEqual, decide_true, if_true, Span.ofSize, Block.mk.injEq,
    Span.mk.injEq, true_and]
  omega

theorem closing_kept (n i j size : Nat) :
    Block.closing n ⟨.equal, .ofSize i size, .ofSize j size⟩ =
      ⟨.equal, .ofSize (i + (size - n)) (size - (size - n)),
        .ofSize (j + (size - n)) (size - (size - n))⟩ := by
  simp only [Block.closing, Block.isEqual, decide_true, if_true, Span.ofSize, Block.mk.injEq,
    Span.mk.injEq, true_and]
  omega

theorem isLong_kept (n i j size : Nat) :
    Block.isLong n ⟨.equal, .ofSize i size, .ofSize j size⟩ = true ↔ 2 * n < size := by
  have hextent : (Span.ofSize i size).extent = size := by
    rw [Span.extent, Span.ofSize_start, Span.ofSize_stop]
    omega
  simp [Block.isLong, Block.isEqual, hextent]
  omega

theorem walk_changed {rest : List (Segment Points)} (h : Alternate false rest) (hrest : rest ≠ [])
    (i j : Nat) : ∃ b blocks, walk Segment.blocks i j rest = b :: blocks ∧ b.isEqual = false := by
  cases h with
  | nil => exact absurd rfl hrest
  | @changed removed added rest hlines _ =>
    obtain ⟨b, blocks, hblocks⟩ : ∃ b blocks, Segment.blocks i j (.changed removed added) =
        b :: blocks := by
      refine List.exists_cons_of_ne_nil ?_
      rcases hlines with hne | hne <;> simp [Segment.blocks, hne]
    refine ⟨b, _, by rw [walk, hblocks]; rfl, changed_blocks i j removed added b ?_⟩
    rw [hblocks]
    exact List.mem_cons_self ..

def CutsAlike (n i j : Nat) (segments : List (Segment Points)) : Prop :=
  Block.cut n (Block.trimLast n (walk Segment.blocks i j segments)) =
    (cut n i j segments).map Piece.blocks

theorem kept_cutsAlike {n i j : Nat} (texts : List Points) {rest : List (Segment Points)}
    (h : Alternate false rest) (hrest : CutsAlike n (i + texts.length) (j + texts.length) rest) :
    CutsAlike n i j (.kept texts :: rest) := by
  by_cases hempty : rest = []
  · subst hempty
    have hlong : ¬ Block.isLong n ⟨.equal, .ofSize i (min n texts.length),
        .ofSize j (min n texts.length)⟩ = true := by
      rw [isLong_kept]
      omega
    change Block.cut n [Block.opening n _] = _
    rw [opening_kept, Block.cut, if_neg hlong, cut]
    simp [Block.cut, Block.onto, Piece.blocks, walk, Segment.blocks]
  · obtain ⟨first, later, hcut⟩ := cut_first n (i + texts.length) (j + texts.length) rest
    obtain ⟨b, blocks, hblocks, -⟩ := walk_changed h hempty (i + texts.length) (j + texts.length)
    have hne : walk Segment.blocks (i + texts.length) (j + texts.length) rest ≠ [] :=
      hblocks ▸ List.cons_ne_nil b blocks
    have hwalk : walk Segment.blocks i j (.kept texts :: rest) =
        ⟨.equal, .ofSize i texts.length, .ofSize j texts.length⟩ ::
          walk Segment.blocks (i + texts.length) (j + texts.length) rest := rfl
    rw [CutsAlike] at hrest
    rw [CutsAlike, hwalk, trimLast_cons n _ hne, Block.cut, hrest, cut_kept n i j texts hempty,
      hcut]
    by_cases hlong : 2 * n < texts.length
    · have hstop (i : Nat) : i + (texts.length - n) + (texts.length - (texts.length - n)) =
          i + texts.length := by omega
      rw [if_pos ((isLong_kept ..).mpr hlong), if_pos hlong, opening_kept, closing_kept]
      simp [Block.onto, onto, Piece.blocks, walk, Segment.blocks, Segment.old, Segment.new, hstop]
    · rw [if_neg (mt (isLong_kept ..).mp hlong), if_neg hlong]
      rfl

theorem cut_cutsAlike (n : Nat) {turn : Bool} {segments : List (Segment Points)}
    (h : Alternate turn segments) (i j : Nat) : CutsAlike n i j segments := by
  induction h generalizing i j with
  | nil => rfl
  | @kept texts rest _ halt ih => exact kept_cutsAlike texts halt (ih _ _)
  | @changed removed added rest _ _ ih =>
    obtain ⟨first, later, hcut⟩ := cut_first n (i + removed.length) (j + added.length) rest
    have hrest := ih (i + removed.length) (j + added.length)
    rw [CutsAlike, hcut, List.map_cons] at hrest
    have hchanges := changed_blocks i j removed added
    rw [CutsAlike, walk, trimLast_changes n _ hchanges]
    refine (cut_changes hchanges hrest).trans ?_
    rw [cut_changed, hcut]
    rfl

/-- The hunk that shows a piece. -/
def Piece.hunk (p : Piece) : Hunk :=
  let oldCount := (olds p.segments).length
  let newCount := (news p.segments).length
  ⟨Hunk.sideStart p.old oldCount, oldCount, Hunk.sideStart p.new newCount, newCount, p.lines⟩

/-- How many lines of a side's file stand before the piece. -/
def Piece.start (side : DiffSide) (p : Piece) : Nat :=
  match side with
  | .old => p.old
  | .new => p.new

def Piece.PartOf (side : DiffSide) (contents : List Points) (p : Piece) : Prop :=
  ∃ before after, contents = before ++ (file side p.segments ++ after) ∧
    before.length = p.start side

def Block.Path : (i j i' j' : Int) → List Block → Prop
  | i, j, i', j', [] => i = i' ∧ j = j'
  | i, j, i', j', b :: rest =>
    b.old.start = i ∧ b.new.start = j ∧ Block.Path b.old.stop b.new.stop i' j' rest

theorem path_append {i j i' j' k l : Int} {blocks rest : List Block}
    (h : Block.Path i j i' j' blocks) (hrest : Block.Path i' j' k l rest) :
    Block.Path i j k l (blocks ++ rest) := by
  induction blocks generalizing i j with
  | nil =>
    obtain ⟨rfl, rfl⟩ := h
    exact hrest
  | cons b blocks ih =>
    obtain ⟨hold, hnew, h⟩ := h
    exact ⟨hold, hnew, ih h⟩

theorem path_last {i j i' j' : Int} {b : Block} {rest : List Block} (d : Block)
    (h : Block.Path i j i' j' (b :: rest)) :
    ((b :: rest).getLast?.getD d).old.stop = i' ∧ ((b :: rest).getLast?.getD d).new.stop = j' := by
  induction rest generalizing i j b with
  | nil => exact h.2.2
  | cons c rest ih =>
    rw [List.getLast?_cons_cons]
    exact ih h.2.2

theorem segment_path (i j : Nat) (segment : Segment Points) :
    Block.Path i j (i + segment.old.length : Nat) (j + segment.new.length : Nat)
      (Segment.blocks i j segment) := by
  cases segment with
  | kept texts => exact ⟨rfl, rfl, rfl, rfl⟩
  | changed removed added =>
    cases removed <;> cases added <;>
      simp [Segment.blocks, Block.Path, Span.ofSize, Segment.old, Segment.new]

theorem walk_path (i j : Nat) (segments : List (Segment Points)) :
    Block.Path i j (i + (olds segments).length : Nat) (j + (news segments).length : Nat)
      (walk Segment.blocks i j segments) := by
  induction segments generalizing i j with
  | nil => exact ⟨rfl, rfl⟩
  | cons segment rest ih =>
    have hrest := ih (i + segment.old.length) (j + segment.new.length)
    rw [Nat.add_assoc, Nat.add_assoc] at hrest
    rw [olds_cons, news_cons, List.length_append, List.length_append]
    exact path_append (segment_path i j segment) hrest

theorem blocks_show (before after before' after' : List Points) (segment : Segment Points) :
    Shows (Block.lines (before ++ (segment.old ++ after)).toArray
        (before' ++ (segment.new ++ after')).toArray)
      (segment.blocks before.length before'.length)
      (segment.lines before.length before'.length) := by
  cases segment with
  | kept texts =>
    refine shows_single ?_
    simp only [Block.lines, Span.ofSize_size, Span.ofSize_start]
    exact contextLines_middle before' texts after' before.length
  | changed removed added =>
    exact changed_show (removedLines_middle before removed after)
      (addedLines_middle before' added after')

theorem ofGroup_piece {oldFile newFile : List Points} {p : Piece} (hold : p.PartOf .old oldFile)
    (hnew : p.PartOf .new newFile) (hne : p.blocks ≠ []) :
    Hunk.ofGroup oldFile.toArray newFile.toArray p.blocks = .ok p.hunk := by
  obtain ⟨before, after, hold, hbefore⟩ := hold
  obtain ⟨before', after', hnew, hbefore'⟩ := hnew
  have hshow : Shows (Block.lines oldFile.toArray newFile.toArray) p.blocks p.lines := by
    rw [Piece.blocks, Piece.lines, ← show before.length = p.old from hbefore,
      ← show before'.length = p.new from hbefore']
    refine shows_walk oldFile newFile (fun before after before' after' segment hold hnew => ?_)
      before after before' after' p.segments hold hnew
    rw [hold, hnew]
    exact blocks_show before after before' after' segment
  have hpath : Block.Path p.old p.new p.oldStop p.newStop p.blocks := walk_path ..
  obtain ⟨parts, hparts, hflat⟩ := hshow
  obtain ⟨b, rest, hblocks⟩ := List.exists_cons_of_ne_nil hne
  rw [hblocks] at hpath hparts
  obtain ⟨hlastOld, hlastNew⟩ := path_last b hpath
  obtain ⟨hfirstOld, hfirstNew, -⟩ := hpath
  have holdCount : (p.oldStop : Int) - p.old = (olds p.segments).length := by
    rw [Piece.oldStop]
    omega
  have hnewCount : (p.newStop : Int) - p.new = (news p.segments).length := by
    rw [Piece.newStop]
    omega
  rw [hblocks, Hunk.ofGroup, hparts]
  change Except.ok (Hunk.mk _ _ _ _ _) = _
  simp only [List.head?_cons, Option.getD_some, hlastOld, hlastNew, hfirstOld, hfirstNew, holdCount,
    hnewCount, hflat, Piece.hunk]

end ReviewDiff
