import ReviewDiff.Proofs.Diff.Hunks
import ReviewDiff.Proofs.Service.Commits
import ReviewDiff.Proofs.Text.Encoding
import ReviewDiff.Proofs.Text.Lines

/-!
# Line endings are no change

Two texts with the same lines may end them differently, each line in its own way, and the last of
them not at all. Their bytes have the same content, so that a diff between two commits which hold
them shows no change: no hunk has a line, whatever the context, and the complete file is unchanged.
-/

set_option autoImplicit false

namespace ReviewDiff

open Step Segment

theorem edits_free {α : Type} {steps : List Step} {old new : List α} (h : Edits steps old new)
    (hcost : Step.cost steps = 0) : steps = List.replicate old.length .keep := by
  induction h with
  | nil => rfl
  | keep line _ ih =>
    rw [List.length_cons, List.replicate_succ, ← ih (by simpa using hcost)]
  | delete line _ _ => simp at hcost
  | insert line _ _ => simp at hcost

theorem editScript_self (texts : List Points) :
    editScript texts texts = Script.ofRuns 0 0 ((unchanged texts).map run) := by
  obtain ⟨steps, -, hscript, hedits, hleast⟩ := editScript_ofSteps texts texts
  have hfree : Step.cost steps = 0 := by
    have hkeep := hleast _ (edits_keep texts)
    simpa using hkeep
  rw [hscript, edits_free hedits hfree, Script.ofSteps, runs_keep]

theorem textDiff_self_hunk (context : Nat) (texts : List Points) :
    textDiff .hunk context texts texts = .ok [] := by
  have hhunks := ofScript_around context (unchanged_alternate texts)
  rw [unchanged_olds, unchanged_news, ← editScript_self] at hhunks
  have hnone : Piece.around context (unchanged texts) = [] := by
    by_cases h : texts = [] <;> simp [unchanged, h, Piece.around]
  simp only [textDiff, hhunks, hnone]
  rfl

theorem textDiff_self_complete (context : Int) (texts : List Points) :
    textDiff .complete context texts texts = .ok (contexts 0 0 texts) := by
  have hlines := completeLines_segments (unchanged texts)
  rw [unchanged_olds, unchanged_news, ← editScript_self] at hlines
  have houtput : output 0 0 (unchanged texts) = contexts 0 0 texts := by
    by_cases h : texts = [] <;> simp [unchanged, h, output, walk, Segment.lines]
  simp only [textDiff, hlines, houtput]
  rfl

structure PlainLine (line : List Char) : Prop where
  zero : Char.ofNat 0 ∉ line
  last : line.getLast? ≠ some '\r'

namespace Cut

variable {cut : Cut} {lines : List (List Char)}

theorem ended_mem_lines {e : EndedLine} (he : e ∈ cut.ended) : e.line ∈ cut.lines :=
  List.mem_append_left _ (List.mem_map_of_mem he)

theorem rest_mem_lines (h : cut.rest ≠ []) : cut.rest ∈ cut.lines := by
  simp [lines, h]

theorem text_forall {Q : CodePoint → Prop} (hlines : ∀ line ∈ cut.lines, ∀ point ∈ line, Q point)
    (hreturn : Q carriageReturn) (hfeed : Q lineFeed) : ∀ point ∈ cut.text, Q point := by
  intro point hpoint
  obtain hended | hrest := List.mem_append.mp hpoint
  · obtain ⟨e, he, hmem⟩ := List.mem_flatMap.mp hended
    obtain hline | hterminator := List.mem_append.mp hmem
    · exact hlines e.line (ended_mem_lines he) point hline
    · have hends : ∀ t : Terminator, ∀ q ∈ t.chars, Q q := by
        rintro (_ | _) <;> simp [Terminator.chars, Terminator.front, hreturn, hfeed]
      exact hends e.terminator point hterminator
  · exact hlines cut.rest (rest_mem_lines (List.ne_nil_of_mem hrest)) point hrest

theorem rest_last (hlines : ∀ line ∈ lines, PlainLine line)
    (h : cut.lines = lines.map Points.ofChars) : cut.rest.getLast? ≠ some carriageReturn := by
  by_cases hrest : cut.rest = []
  · simp [hrest]
  · obtain ⟨line, hmem, hline⟩ := List.mem_map.mp (h ▸ rest_mem_lines hrest)
    rw [← hline, Points.ofChars, List.getLast?_map]
    simpa using (hlines line hmem).last

theorem classify_encode (hlines : ∀ line ∈ lines, PlainLine line)
    (h : cut.lines = lines.map Points.ofChars) :
    ∃ bytes, cut.text.encode = .ok bytes ∧ Content.classify (some bytes) =
      .present (LineRecord.number 1 (lines.map Points.ofChars)) := by
  have hplain : ∀ point ∈ cut.text, point.isSurrogate = false ∧ point ≠ Char.ofNat 0 := by
    refine text_forall (fun text htext => ?_) (by decide) (by decide)
    obtain ⟨line, hmem, rfl⟩ := List.mem_map.mp (h ▸ htext)
    intro point hpoint
    obtain ⟨c, hc, rfl⟩ := List.mem_map.mp hpoint
    refine ⟨rfl, fun hzero => (hlines line hmem).zero ?_⟩
    exact CodePoint.char.inj hzero ▸ hc
  have hencodable : cut.text.Encodable := fun point hpoint => (hplain point hpoint).1
  obtain ⟨cs, hcs⟩ := hencodable.exists_chars
  have hzero : Char.ofNat 0 ∉ cs := fun hmem =>
    (hplain _ (hcs ▸ List.mem_map_of_mem hmem)).2 rfl
  refine ⟨Utf8.encode cs, hcs ▸ Points.encode_ofChars cs, ?_⟩
  have hcontents := LineRecord.contents_lines cut (rest_last hlines h)
  rw [h, ← hcs] at hcontents
  simp [Content.classify, Content.ofBytes, Utf8.zero_not_mem_encode hzero, LineRecord.split,
    hcontents]

end Cut

namespace DiffService

variable {σ : Type} {service : DiffService σ} {path : PathRequest} {oldRef newRef : String}
  {file : RepoPath} {oldId newId : String}

structure ShowsUnchanged (service : DiffService σ) (path : PathRequest) (oldRef newRef : String)
    (s : Traced (Desk σ)) (file : RepoPath) (oldId newId : String) (texts : List Points) :
    Prop where
  hunk : ∀ (cached : Bool) (context : Option Int),
    0 ≤ context.getD service.settings.contextLines →
      service.answerIn cached (.file path (some oldRef) (some newRef) context) s =
        .ok ⟨file, .hunk, oldRef, some newRef, oldId, newId, []⟩
  complete : ∀ cached : Bool,
    service.answerIn cached (.complete path (some oldRef) (some newRef)) s =
      .ok ⟨file, .complete, oldRef, some newRef, oldId, newId,
        texts.mapIdx fun k text => .context text (k + 1 : Nat) (k + 1 : Nat)⟩

theorem showsUnchanged_same {world : World σ} (hstore : service.store ∈ world.stores)
    {s : Traced (Desk σ)} (hs : Desk.Sound world.possible world.Truth none s.state)
    (h : service.Finds path oldRef newRef ⟨s.state.outside, s.log⟩ file oldId newId)
    {records : List LineRecord} {old new : Option Bytes}
    (hold : world.blob service.store oldId file = .ok old)
    (hnew : world.blob service.store newId file = .ok new)
    (holdContent : Content.classify old = .present records)
    (hnewContent : Content.classify new = .present records) :
    service.ShowsUnchanged path oldRef newRef s file oldId newId (LineRecord.texts records) := by
  have htext : ¬ BinaryChange old new := by
    rintro ⟨hbinary, -⟩
    rw [holdContent, hnewContent] at hbinary
    simp [Content.isBinary] at hbinary
  constructor
  · intro cached context hcontext
    obtain ⟨n, hn⟩ := Int.eq_ofNat_of_zero_le hcontext
    refine answerIn_found hstore hs h hold hnew (named_hunk h.named.1 hcontext) ?_
      fun _ _ hchange => absurd hchange htext
    rw [holdContent, hnewContent, hn]
    exact textDiff_self_hunk n (LineRecord.texts records)
  · intro cached
    refine answerIn_found hstore hs h hold hnew (named_complete h.named.1 h.named.2) ?_
      fun _ _ hchange => absurd hchange htext
    have hlines := textDiff_self_complete 0 (LineRecord.texts records)
    simp only [contexts, Nat.zero_add] at hlines
    rw [holdContent, hnewContent]
    exact hlines

end DiffService

/-- Wherever two commits hold the bytes at one file, a service shows no difference between them,
whatever was asked of it and happened around it before. -/
def AlikeInCommits (old new : Bytes) (texts : List Points) : Prop :=
  ∀ (σ : Type) (world : World σ) (acts : List (Act σ)) (outside : σ) (limits : Limits)
    (now : Seconds) (log : List LogRecord) (service : DiffService σ) (s : Traced (Desk σ))
    (path : PathRequest) (oldRef newRef : String) (file : RepoPath) (oldId newId : String),
    (∀ act ∈ acts, act.Within world) → world.possible outside → service.store ∈ world.stores →
    acts.foldl Act.after ⟨⟨outside, .empty limits, now⟩, log⟩ = s →
    service.Finds path oldRef newRef ⟨s.state.outside, s.log⟩ file oldId newId →
    world.blob service.store oldId file = .ok (some old) →
    world.blob service.store newId file = .ok (some new) →
    service.ShowsUnchanged path oldRef newRef s file oldId newId texts

theorem alike_of_records {old new : Bytes} {records : List LineRecord}
    (hold : Content.classify (some old) = .present records)
    (hnew : Content.classify (some new) = .present records) :
    AlikeInCommits old new (LineRecord.texts records) := by
  intro σ world acts outside limits now log service s path oldRef newRef file oldId newId hacts
    hpossible hstore hs hfinds holdBlob hnewBlob
  have hreached : world.Reaches s := ⟨acts, outside, limits, now, log, hacts, hpossible, hs⟩
  exact DiffService.showsUnchanged_same hstore hreached.sound hfinds holdBlob hnewBlob hold hnew

/-- Whatever ends the lines of two texts, their bytes have the same records, which are the lines in
their order, and they are alike in commits. -/
theorem lineEndings_unseen {lines : List (List Char)} (hlines : ∀ line ∈ lines, PlainLine line)
    {before after : Cut} (hbefore : before.lines = lines.map Points.ofChars)
    (hafter : after.lines = lines.map Points.ofChars) :
    ∃ old new records, before.text.encode = .ok old ∧ after.text.encode = .ok new ∧
      Content.classify (some old) = .present records ∧
      Content.classify (some new) = .present records ∧
      LineRecord.texts records = lines.map Points.ofChars ∧
      records.map (·.index) = List.range' 1 lines.length ∧
      AlikeInCommits old new (lines.map Points.ofChars) := by
  obtain ⟨old, hold, holdContent⟩ := Cut.classify_encode hlines hbefore
  obtain ⟨new, hnew, hnewContent⟩ := Cut.classify_encode hlines hafter
  have htexts := LineRecord.number_texts 1 (lines.map Points.ofChars)
  have hindices := LineRecord.number_indices 1 (lines.map Points.ofChars)
  rw [List.length_map] at hindices
  exact ⟨old, new, _, hold, hnew, holdContent, hnewContent, htexts, hindices,
    htexts ▸ alike_of_records holdContent hnewContent⟩

theorem lineEndings_unseen_mixed :
    let lines : List (List Char) := [['a'], [], ['b']]
    let before : Cut := ⟨[⟨"a", .crlf, by decide, by decide⟩, ⟨"", .lf, by decide, by decide⟩,
      ⟨"b", .crlf, by decide, by decide⟩], "", by decide⟩
    let after : Cut := ⟨[⟨"a", .lf, by decide, by decide⟩, ⟨"", .crlf, by decide, by decide⟩],
      "b", by decide⟩
    let old : Bytes := [97, 13, 10, 10, 98, 13, 10]
    let new : Bytes := [97, 10, 13, 10, 98]
    let file : RepoPath := ⟨"f", by decide⟩
    let outside : MemoryRepository :=
      ⟨[("a1", [("f", some old)]), ("b2", [("f", some new)])], [("main", "a1"), ("work", "b2")],
        [], [], Path.noLinks, 0, 0⟩
    let service : DiffService MemoryRepository :=
      ⟨MemoryRepository.store "/w", DiffSettings.default, true⟩
    let acts : List (Act MemoryRepository) :=
      [.ask service (.complete (.known file) (some "main") (some "work")), .advance (.whole 5)]
    let s := acts.foldl Act.after
      ⟨⟨outside, .empty ⟨1000, .whole 60, by decide, by decide⟩, .whole 0⟩, []⟩
    before.text = "a\r\n\nb\r\n" ∧ after.text = "a\n\r\nb" ∧
      before.text.encode = .ok old ∧ after.text.encode = .ok new ∧
      (∃ records, Content.classify (some old) = .present records ∧
        Content.classify (some new) = .present records ∧
        LineRecord.texts records = lines.map Points.ofChars ∧
        records.map (·.index) = List.range' 1 lines.length) ∧
      service.ShowsUnchanged (.known file) "main" "work" s file "a1" "b2"
        (lines.map Points.ofChars) := by
  intro lines before after old new file outside service acts s
  have hlines : ∀ line ∈ lines, PlainLine line := by
    intro line hline
    simp only [lines, List.mem_cons, List.not_mem_nil, or_false] at hline
    rcases hline with rfl | rfl | rfl
    · exact ⟨by decide, by decide⟩
    · exact ⟨by decide, by decide⟩
    · exact ⟨by decide, by decide⟩
  have hcommits (id : String) (h : Assoc.contains outside.commits id = true) :
      Side.isWorktree id = false := by
    obtain ⟨files, hget⟩ := Option.isSome_iff_exists.mp h
    have hmem := Assoc.mem_of_get? hget
    simp only [outside, List.mem_cons, Prod.mk.injEq, List.not_mem_nil, or_false] at hmem
    rcases hmem with ⟨rfl, -⟩ | ⟨rfl, -⟩ <;> decide
  have hfailing (name : Points) (fault : Fault)
      (h : Assoc.get? ([] : Assoc Points Fault) name = some fault) : fault.isInterrupt = false := by
    cases h
  let world : World MemoryRepository :=
    MemoryRepository.world hcommits hfailing (Set.injOn_empty blobId) "/w"
  have hacts : ∀ act ∈ acts, act.Within world := by
    intro act hact
    simp only [acts, List.mem_cons, List.not_mem_nil, or_false] at hact
    rcases hact with rfl | rfl
    · exact Set.mem_singleton _
    · trivial
  have hpossible : world.possible outside := by
    apply MemoryRepository.Holds.of_tables
    · decide
    · simp [outside]
  have hmain : s.state.outside.refs.get? "main" = some "a1" := by decide +kernel
  have hwork : s.state.outside.refs.get? "work" = some "b2" := by decide +kernel
  have hnone : s.state.outside.failing = [] := by decide +kernel
  have hs : acts.foldl Act.after
      ⟨⟨outside, .empty ⟨1000, .whole 60, by decide, by decide⟩, .whole 0⟩, []⟩ = s := rfl
  clear_value s
  have hlook (name id : String) (href : s.state.outside.refs.get? name = some id) :
      (service.store.resolveRef name).run ⟨s.state.outside, s.log⟩ =
        (.ok id, ⟨s.state.outside, s.log⟩) :=
    MemoryRepository.resolveRef_run (by rw [hnone]; rfl) href
  have hfinds : service.Finds (.known file) "main" "work" ⟨s.state.outside, s.log⟩ file "a1"
      "b2" :=
    ⟨⟨by decide, by decide⟩, _, _, _, rfl, hlook "main" "a1" hmain, hlook "work" "b2" hwork⟩
  have hold : before.text.encode = .ok old := by decide +kernel
  have hnew : after.text.encode = .ok new := by decide +kernel
  obtain ⟨old', new', records, hbefore, hafter, holdContent, hnewContent, htexts, hindices,
    halike⟩ := @lineEndings_unseen lines hlines before after rfl rfl
  obtain rfl := Except.ok.inj (hold.symm.trans hbefore)
  obtain rfl := Except.ok.inj (hnew.symm.trans hafter)
  exact ⟨rfl, rfl, hold, hnew, ⟨records, holdContent, hnewContent, htexts, hindices⟩,
    halike _ world acts outside _ _ _ service s _ _ _ _ _ _ hacts hpossible
      (Set.mem_singleton _) hs hfinds rfl rfl⟩

end ReviewDiff
