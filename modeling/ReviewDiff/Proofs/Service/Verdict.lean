import ReviewDiff.Proofs.Diff.Counts
import ReviewDiff.Proofs.Service.Commits

/-!
# What both modes say about a change

The counts of a diff are read off its lines, which the two modes put together in different ways. Of
text they always say the same. Where the bytes of a side are no text, only a marker in hunk mode
tells of a change: complete mode has no line to show then, and so it reports none.
-/

set_option autoImplicit false

namespace ReviewDiff

open Segment

theorem classify_isBinary {data : Option Bytes} (h : (Content.classify data).isBinary = true) :
    ∃ bytes, data = some bytes ∧
      Content.classify data = .binary bytes.length (blobId bytes) := by
  cases data with
  | none => cases h
  | some bytes =>
    refine ⟨bytes, rfl, ?_⟩
    rw [Content.classify, Content.ofBytes] at h ⊢
    split at h
    · rw [if_pos ‹_›, Content.ofBinary]
    · rw [if_neg ‹_›]
      split at h
      · rfl
      · cases h

theorem classify_binary_eq {old new : Option Bytes}
    (hapart : ∀ a ∈ old, ∀ b ∈ new, blobId a = blobId b → a = b)
    (hbinary : (Content.classify old).isBinary = true ∨ (Content.classify new).isBinary = true) :
    Content.classify old = Content.classify new ↔ old = new := by
  constructor
  · intro h
    have hboth : (Content.classify old).isBinary = true ∧
        (Content.classify new).isBinary = true := by
      rw [← h] at hbinary ⊢
      exact ⟨hbinary.elim id id, hbinary.elim id id⟩
    obtain ⟨a, rfl, ha⟩ := classify_isBinary hboth.1
    obtain ⟨b, rfl, hb⟩ := classify_isBinary hboth.2
    rw [ha, hb, Content.binary.injEq] at h
    rw [hapart a rfl b rfl h.2]
  · rintro rfl
    rfl

theorem marker_counts (path : RepoPath) :
    DiffStats.ofLines [binaryMarker path] = ⟨0, 0, 0, false⟩ := by
  have hkind : (binaryMarker path).kind = .header := rfl
  have hcontent : DiffStats.isHunkHeader (binaryMarker path).content = false := by
    simp only [DiffStats.isHunkHeader, binaryMarker, DiffLine.content, List.append_assoc]
    rfl
  simp [DiffStats.ofLines, DiffStats.isMarker, hkind, hcontent]

theorem textDiff_counts (context : Nat) (old new : List Points) :
    ∃ hunk complete added removed hunks, textDiff .hunk context old new = .ok hunk ∧
      textDiff .complete 0 old new = .ok complete ∧
      DiffStats.ofLines hunk = ⟨added, removed, hunks, old = new⟩ ∧
      DiffStats.ofLines complete = ⟨added, removed, 0, old = new⟩ := by
  obtain ⟨turn, segments, common, halt, rfl, rfl, -, hscript, -, hcounts⟩ :=
    editScript_counts old new
  refine ⟨_, _, _, _, _, ?_, ?_, (ofLines_around context halt).trans (hcounts _),
    (ofLines_output segments).trans (hcounts 0)⟩
  · simp only [textDiff, hscript, ofScript_around context halt]
    rfl
  · simp only [textDiff, hscript, completeLines_segments]
    rfl

structure SameVerdict (old new : Option Bytes) (hunk complete : DiffStats) : Prop where
  added : hunk.added = complete.added
  removed : hunk.removed = complete.removed
  unchanged : hunk.identical = true ↔ ¬ BinaryChange old new ∧
    (Content.classify old).texts = (Content.classify new).texts
  identical : hunk.identical = complete.identical ↔ ¬ BinaryChange old new

def ComparedAlike (path : RepoPath) (context : Int) (old new : Option Bytes) : Prop :=
  ∃ hunk complete,
    compared .hunk path context (Content.classify old) (Content.classify new) = .ok hunk ∧
    compared .complete path 0 (Content.classify old) (Content.classify new) = .ok complete ∧
    SameVerdict old new (.ofLines hunk) (.ofLines complete)

theorem binary_verdict (path : RepoPath) (context : Int) {old new : Option Bytes}
    (hapart : ∀ a ∈ old, ∀ b ∈ new, blobId a = blobId b → a = b)
    (hbinary : (Content.classify old).isBinary = true ∨ (Content.classify new).isBinary = true) :
    ComparedAlike path context old new := by
  have hequal := classify_binary_eq hapart hbinary
  have hguard := (Bool.or_eq_true _ _).mpr hbinary
  refine ⟨if old = new then [] else [binaryMarker path], [], ?_, ?_, ?_⟩
  · rw [compared, if_pos hguard]
    by_cases hsame : old = new
    · simp [hsame]
    · simp [hsame, hequal]
  · rw [compared, if_pos hguard]
    rfl
  · by_cases hsame : old = new
    · have hshown : ¬ BinaryChange old new := fun h => h.2 hsame
      rw [if_pos hsame]
      exact ⟨rfl, rfl, iff_of_true rfl ⟨hshown, hsame ▸ rfl⟩, iff_of_true rfl hshown⟩
    · have hhidden : BinaryChange old new := ⟨hbinary, hsame⟩
      rw [if_neg hsame, marker_counts]
      exact ⟨rfl, rfl, iff_of_false Bool.false_ne_true fun h => h.1 hhidden,
        iff_of_false Bool.false_ne_true fun h => h hhidden⟩

theorem text_verdict (path : RepoPath) (context : Nat) {old new : Option Bytes}
    (htext : ¬ ((Content.classify old).isBinary = true ∨ (Content.classify new).isBinary = true)) :
    ComparedAlike path context old new := by
  have hguard := mt (Bool.or_eq_true _ _).mp htext
  have hshown : ¬ BinaryChange old new := fun h => htext h.1
  obtain ⟨hunk, complete, added, removed, hunks, hhunk, hcomplete, hhunkCounts, hcompleteCounts⟩ :=
    textDiff_counts context (Content.classify old).texts (Content.classify new).texts
  refine ⟨hunk, complete, ?_, ?_, ?_⟩
  · rw [compared, if_neg hguard, hhunk]
  · rw [compared, if_neg hguard, hcomplete]
  · rw [hhunkCounts, hcompleteCounts]
    refine ⟨rfl, rfl, ?_, iff_of_true rfl hshown⟩
    rw [decide_eq_true_iff]
    exact (and_iff_right hshown).symm

/-- Wherever a service has got to, the diffs of two commits in both modes count the same added and
removed lines. In hunk mode a file is unchanged where its texts are and no bytes change that are no
text. Complete mode says the same if and only if there is no change of such bytes. Only where hunk
mode shows such a change with the cache, the name of the file needs bytes. -/
theorem verdicts_agree {σ : Type} {world : World σ} {service : DiffService σ}
    (hstore : service.store ∈ world.stores) {s s' : Traced (Desk σ)} (hs : world.Reaches s)
    (hs' : world.Reaches s') {path : PathRequest} {oldRef newRef : String} {file : RepoPath}
    {oldId newId : String}
    (h : service.Finds path oldRef newRef ⟨s.state.outside, s.log⟩ file oldId newId)
    (h' : service.Finds path oldRef newRef ⟨s'.state.outside, s'.log⟩ file oldId newId)
    {old new : Option Bytes} (hold : world.blob service.store oldId file = .ok old)
    (hnew : world.blob service.store newId file = .ok new)
    (hapart : ∀ a ∈ old, ∀ b ∈ new, blobId a = blobId b → a = b) {context : Option Int}
    (hcontext : 0 ≤ context.getD service.settings.contextLines) {cached : Bool}
    (hshown : cached = true → BinaryChange old new → file.value.Encodable) (cached' : Bool) :
    ∃ hunk complete,
      service.answerIn cached (.file path (some oldRef) (some newRef) context) s = .ok hunk ∧
      service.answerIn cached' (.complete path (some oldRef) (some newRef)) s' = .ok complete ∧
      SameVerdict old new hunk.stats complete.stats := by
  obtain ⟨n, hn⟩ := Int.eq_ofNat_of_zero_le hcontext
  have halike : ComparedAlike file n old new := by
    by_cases hbinary : (Content.classify old).isBinary = true ∨
        (Content.classify new).isBinary = true
    · exact binary_verdict file n hapart hbinary
    · exact text_verdict file n hbinary
  obtain ⟨hunk, complete, hhunk, hcomplete, hverdict⟩ := halike
  rw [← hn] at hhunk
  have hfile := DiffService.answerIn_found hstore hs.sound h hold hnew
    (DiffService.named_hunk h.named.1 hcontext) hhunk fun hcached _ => hshown hcached
  have hwhole (cached : Bool) := DiffService.answerIn_found hstore hs'.sound h' hold hnew
    (DiffService.named_complete h'.named.1 h'.named.2) hcomplete
    (fun (_ : cached = true) hmode => nomatch hmode)
  exact ⟨_, _, hfile, hwhole cached', hverdict⟩

theorem blobId_zero_ne : blobId [0] ≠ blobId [0, 1] := by decide +kernel

theorem verdicts_agree_bytes :
    let file : RepoPath := ⟨"f", by decide⟩
    let outside : MemoryRepository :=
      ⟨[("a1", [("f", some [0])]), ("b2", [("f", some [0, 1])])],
        [("main", "a1"), ("work", "b2")], [], [], Path.noLinks, 0, 0⟩
    let service : DiffService MemoryRepository :=
      ⟨MemoryRepository.store "/w", DiffSettings.default, true⟩
    let hunk : Request := .file (.known file) (some "main") (some "work") (some 0)
    let complete : Request := .complete (.known file) (some "main") (some "work")
    let start : Traced (Desk MemoryRepository) :=
      ⟨⟨outside, .empty ⟨1000, .whole 60, by decide, by decide⟩, .whole 0⟩, []⟩
    let later := [Act.ask service hunk, .advance (.whole 5)].foldl Act.after start
    ∃ first second, service.answerIn true hunk start = .ok first ∧
      service.answerIn false complete later = .ok second ∧
      SameVerdict (some [0]) (some [0, 1]) first.stats second.stats := by
  intro file outside service hunk complete start later
  have hcommits : ∀ id, Assoc.contains outside.commits id = true → Side.isWorktree id = false :=
    MemoryRepository.commits_table (by decide)
  have hfailing (name : Points) (fault : Fault)
      (h : Assoc.get? ([] : Assoc Points Fault) name = some fault) : fault.isInterrupt = false := by
    cases h
  let world : World MemoryRepository :=
    MemoryRepository.world hcommits hfailing (Set.injOn_empty blobId) "/w"
  have hpossible : world.possible outside := by
    apply MemoryRepository.Holds.of_tables
    · decide
    · simp [outside]
  have hstart : world.Reaches start :=
    ⟨[], outside, _, _, [], fun _ h => absurd h List.not_mem_nil, hpossible, rfl⟩
  have hlater : world.Reaches later := by
    refine ⟨_, outside, _, _, [], ?_, hpossible, rfl⟩
    intro act hact
    simp only [List.mem_cons, List.not_mem_nil, or_false] at hact
    rcases hact with rfl | rfl
    · exact Set.mem_singleton _
    · trivial
  have hfound : service.Finds (.known file) "main" "work" ⟨start.state.outside, start.log⟩ file
      "a1" "b2" := DiffService.finds_memory (by decide) rfl rfl rfl
  have hfoundLater : service.Finds (.known file) "main" "work" ⟨later.state.outside, later.log⟩
      file "a1" "b2" :=
    DiffService.finds_memory (by decide) (by decide +kernel) (by decide +kernel) (by decide +kernel)
  have hapart : ∀ a ∈ some [0], ∀ b ∈ some [0, 1], blobId a = blobId b → a = b := by
    rintro _ ⟨⟩ _ ⟨⟩ h
    exact absurd h blobId_zero_ne
  have hstore : service.store ∈ world.stores := Set.mem_singleton _
  have hencodable : file.value.Encodable := Points.encodable_ofString "f"
  exact verdicts_agree hstore hstart hlater hfound hfoundLater rfl rfl hapart (by decide)
    (fun _ _ => hencodable) false

/-- Bytes that are no text have changed, and complete mode says that the file has not. -/
theorem verdicts_differ_bytes :
    let file : RepoPath := ⟨"f", by decide⟩
    let outside : MemoryRepository :=
      ⟨[("a1", [("f", some [0])]), ("b2", [("f", some [0, 1])])],
        [("main", "a1"), ("work", "b2")], [], [], Path.noLinks, 0, 0⟩
    let service : DiffService MemoryRepository :=
      ⟨MemoryRepository.store "/w", DiffSettings.default, true⟩
    let start : Traced (Desk MemoryRepository) :=
      ⟨⟨outside, .empty ⟨1000, .whole 60, by decide, by decide⟩, .whole 0⟩, []⟩
    blobId [0] ≠ blobId [0, 1] ∧
      (service.answerIn true (.file (.known file) (some "main") (some "work") none) start).map
        (·.stats) = .ok ⟨0, 0, 0, false⟩ ∧
      (service.answerIn true (.complete (.known file) (some "main") (some "work")) start).map
        (·.stats) = .ok ⟨0, 0, 0, true⟩ := by
  intro file outside service start
  exact ⟨blobId_zero_ne, by decide +kernel, by decide +kernel⟩

end ReviewDiff
