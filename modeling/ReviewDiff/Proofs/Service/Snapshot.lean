import ReviewDiff.Proofs.Service.Watched

/-!
# One look at the working tree

A request that compares with the working tree reads it once. The identity of the new side and the
output both come from the bytes of this read, although the output may have been computed for an
earlier request and kept since. A commit is read only when the output is not kept.
-/

set_option autoImplicit false

namespace ReviewDiff

open Work

variable {σ : Type}

/-- Object stores that share what lies outside. Their identities are distinct, each is steady, and
the digest tells the contents apart that their working trees may have. -/
structure Archive (σ : Type) where
  /-- The states that may come. -/
  possible : σ → Prop
  stores : Set (ObjectStore σ)
  contents : Set Bytes
  /-- What the commits of a store hold. -/
  committed : ObjectStore σ → String → RepoPath → Option Bytes
  steady : ∀ store ∈ stores, store.Steady possible contents (committed store)
  distinct : ∀ a ∈ stores, ∀ b ∈ stores, a.identity = b.identity → a = b
  apart : Set.InjOn blobId contents

def World.archive (world : World σ) : Archive σ where
  possible := world.possible
  stores := world.stores
  contents := world.contents
  committed store id path := (world.blob store id path).toOption.join
  steady store hstore := (world.reliable store hstore).steady
  distinct := world.distinct
  apart := world.apart

namespace Archive

variable (archive : Archive σ)

def blob (store : ObjectStore σ) (id : String) (path : RepoPath) : Except Fault (Option Bytes) :=
  .ok (archive.committed store id path)

def questions (store : ObjectStore σ) (path : RepoPath) (old new : Side) : List Asked :=
  old.questions (archive.committed store) path ++ new.questions (archive.committed store) path

def Truth (key : CacheKey) (lines : List DiffLine) : Prop :=
  key.Tells archive.stores archive.contents archive.blob lines

def Sound (desk : Desk σ) : Prop := desk.Sound archive.possible archive.Truth none

/-- The desk is sound, and if there is an answer, it is a right one and the questions asked so far
are the given ones. -/
def Leaves {α : Type} (right : α → Prop) (asked : List Asked) (answer : Except Fault α)
    (desk : Desk (Watched σ)) : Prop :=
  archive.Sound (desk.through Watched.state) ∧
    ∀ a, answer = .ok a → right a ∧ desk.outside.asked = asked

theorem Leaves.map {archive : Archive σ} {α β : Type} {before : Desk (Watched σ) → Prop}
    {t : Work (Desk (Watched σ)) α} {f : α → β} {right : α → Prop} {right' : β → Prop}
    {asked : List Asked} (ht : Meets before t (archive.Leaves right asked))
    (hf : ∀ a, right a → right' (f a)) :
    Meets before (t >>= fun a => pure (f a)) (archive.Leaves right' asked) := by
  refine ht.bind (fun a => Meets.pure fun desk hdesk => ⟨hdesk.1, ?_⟩) fun _ _ h => ⟨h.1, nofun⟩
  rintro _ ⟨⟩
  obtain ⟨hright, hasked⟩ := hdesk.2 a rfl
  exact ⟨hf a hright, hasked⟩

end Archive

namespace DiffService

variable {service : DiffService σ} {possible : σ → Prop} {contents : Set Bytes}
  {committed : String → RepoPath → Option Bytes}

theorem sides_asks (h : service.store.Steady possible contents committed) (request : DiffRequest)
    (path : RepoPath) :
    Asks possible (service.watched.sides request path) fun sides asked => ∃ first second,
      asked = first ++ second ∧ sides.1.Told contents path (some request.oldRef) first ∧
        sides.2.Told contents path request.newRef second := by
  refine (ObjectStore.resolveSide_asks h (some request.oldRef) path).bind
    fun old first hold => ?_
  refine (ObjectStore.resolveSide_asks h request.newRef path).bind fun new second hnew => ?_
  refine Asks.follow (Asks.gives fun _ => Gives.log _) fun _ _ =>
    Asks.pure ⟨first, second, ?_, hold, hnew⟩
  rw [List.append_nil]

theorem prepare_asks (h : service.store.Steady possible contents committed) (request : Request) :
    Asks possible (service.watched.prepare request) fun prepared asked =>
      service.named request = .ok prepared.1 ∧ ∃ first second, asked = first ++ second ∧
        prepared.2.2.1.Told contents prepared.2.1 (some prepared.1.oldRef) first ∧
        prepared.2.2.2.Told contents prepared.2.1 prepared.1.newRef second := by
  refine Asks.follow (Asks.gives fun _ => Gives.ofExcept (service.named request))
    fun named hnamed => ?_
  refine (ObjectStore.normalizePath_asks named.path).follow fun path _ => ?_
  refine (sides_asks h named path).bind fun sides asked hsides => Asks.pure ⟨hnamed, ?_⟩
  rwa [List.append_nil]

theorem compute_asks (h : service.store.Steady possible contents committed) {old new : Side}
    (hold : old.Proper contents) (hnew : new.Proper contents) (mode : DiffMode) (path : RepoPath)
    (context : Option Int) :
    Asks possible (service.watched.compute mode path (context.getD 0) old new)
      fun lines asked =>
        produced (fun id path => .ok (committed id path)) mode path context old new = .ok lines ∧
          asked = old.questions committed path ++ new.questions committed path := by
  refine (ObjectStore.contentOf_asks h hold path).bind fun oldContent first hfirst => ?_
  refine (ObjectStore.contentOf_asks h hnew path).bind fun newContent second hsecond => ?_
  obtain ⟨hold, rfl⟩ := hfirst
  obtain ⟨hnew, rfl⟩ := hsecond
  refine (Asks.gives fun _ => compare_gives mode path _ oldContent newContent).mono
    fun lines asked hlines => ?_
  obtain ⟨hlines, rfl⟩ := hlines
  refine ⟨?_, by rw [List.append_nil]⟩
  rw [produced, hold, hnew]
  exact hlines

theorem truth_keyOf {archive : Archive σ} (hstore : service.store ∈ archive.stores)
    (request : DiffRequest) (path : RepoPath) {old new : Side} (hold : old.Proper archive.contents)
    (hnew : new.Proper archive.contents) (lines : List DiffLine) :
    archive.Truth (service.watched.keyOf request path old new) lines ↔
      produced (archive.blob service.store) request.mode path request.contextLines old new =
        .ok lines :=
  CacheKey.tells_iff archive.distinct archive.apart hstore hold hnew _ _ _ lines

section Finish

variable {archive : Archive σ} {request : DiffRequest} {path : RepoPath} {old new : Side}
  {before : List Asked} (hstore : service.store ∈ archive.stores)
  (hold : old.Proper archive.contents) (hnew : new.Proper archive.contents)

include hstore hold hnew

theorem lift_compute_leaves :
    Meets (Desk.Sound (Watched.Has archive.possible before) archive.Truth none)
      (Desk.lift (service.watched.compute request.mode path (request.contextLines.getD 0) old new))
      (archive.Leaves
        (fun lines => produced (archive.blob service.store) request.mode path request.contextLines
          old new = .ok lines)
        (before ++ archive.questions service.store path old new)) := by
  have hcompute := compute_asks (archive.steady service.store hstore) hold hnew request.mode path
    request.contextLines before
  refine (Desk.lift_sound hcompute).mono (fun _ h => h) fun answer desk hdesk => ?_
  refine ⟨⟨hdesk.outside.1, hdesk.inFlight, hdesk.kept⟩, fun lines hlines => ?_⟩
  obtain ⟨asked, hasked, houtput, rfl⟩ := hdesk.outside.2 lines hlines
  exact ⟨houtput, hasked⟩

theorem getOrCompute_leaves (kept : Bool) :
    Meets (fun desk =>
        desk.cache.contains desk.now (service.watched.keyOf request path old new) = kept ∧
        Desk.Sound (Watched.Has archive.possible before) archive.Truth none desk)
      (DiffCache.getOrCompute (service.watched.keyOf request path old new)
        (Desk.lift
          (service.watched.compute request.mode path (request.contextLines.getD 0) old new)))
      (archive.Leaves
        (fun lines => produced (archive.blob service.store) request.mode path request.contextLines
          old new = .ok lines)
        (before ++ if kept then [] else archive.questions service.store path old new)) := by
  have htruth := truth_keyOf hstore request path hold hnew
  cases kept with
  | true =>
    refine (DiffCache.getOrCompute_kept _ _).mono (fun _ h => h) fun answer desk hdesk => ?_
    obtain ⟨lines, size, rfl, hlines, -, hsound⟩ := hdesk
    refine ⟨⟨hsound.outside.2, hsound.inFlight, hsound.kept⟩, ?_⟩
    rintro _ ⟨⟩
    exact ⟨(htruth lines).mp hlines, by rw [hsound.outside.1, if_pos rfl, List.append_nil]⟩
  | false =>
    have hcompute := compute_asks (archive.steady service.store hstore) hold hnew request.mode path
      request.contextLines before
    intro s hs
    cases hbehind :
      s.state.cache.inFlight.contains (service.watched.keyOf request path old new) with
    | true =>
      obtain ⟨hanswer, hsound⟩ := DiffCache.getOrCompute_behind _
        (Desk.lift
          (service.watched.compute request.mode path (request.contextLines.getD 0) old new))
        s ⟨hs.1, hbehind, hs.2⟩
      refine ⟨⟨hsound.outside.2, hsound.inFlight, hsound.kept⟩, fun lines hlines => ?_⟩
      exact nomatch hanswer.symm.trans hlines
    | false =>
      obtain ⟨outcome, hanswer, hsound⟩ := DiffCache.getOrCompute_computed hcompute
        (fun lines x hx => by
          obtain ⟨_, -, houtput, -⟩ := hx.2 lines rfl
          exact (htruth lines).mpr houtput) s ⟨hs.1, hbehind, hs.2⟩
      refine ⟨⟨hsound.outside.1, hsound.inFlight, hsound.kept⟩, fun lines hlines => ?_⟩
      obtain ⟨asked, hasked, houtput, rfl⟩ :=
        hsound.outside.2 lines (DiffCache.leaderGets_ok (hanswer.symm.trans hlines))
      exact ⟨houtput, hasked⟩

theorem finish_leaves (kept : Bool) :
    Meets (fun desk =>
        (service.cached &&
          desk.cache.contains desk.now (service.watched.keyOf request path old new)) = kept ∧
        Desk.Sound (Watched.Has archive.possible before) archive.Truth none desk)
      (service.watched.finish request path old new)
      (archive.Leaves
        (fun d => produced (archive.blob service.store) request.mode path request.contextLines
            old new = .ok d.lines ∧
          d = ⟨path, request.mode, request.oldRef, request.newRef, old.id, new.id, d.lines⟩)
        (before ++ if kept then [] else archive.questions service.store path old new)) := by
  have hcached : service.watched.cached = service.cached := rfl
  rw [finish, hcached]
  cases service.cached with
  | true =>
    exact Archive.Leaves.map (getOrCompute_leaves hstore hold hnew kept) fun _ h => ⟨h, rfl⟩
  | false =>
    intro s hs
    obtain ⟨hkept, hsound⟩ := hs
    obtain rfl : kept = false := hkept.symm
    exact Archive.Leaves.map (lift_compute_leaves hstore hold hnew) (fun _ h => ⟨h, rfl⟩) s hsound

end Finish

theorem named_file {path : PathRequest} {oldRef newRef : Option String} {context : Option Int}
    {named : DiffRequest}
    (h : service.named (.file path oldRef newRef context) = .ok named) :
    named = ⟨.hunk, path, nameOr service.settings.defaultOldRef oldRef, newRef,
      some (context.getD service.settings.contextLines)⟩ := by
  simp only [DiffService.named] at h
  split at h
  · cases h
  · exact (Except.ok.inj h).symm

theorem watched_answer {archive : Archive σ} (hstore : service.store ∈ archive.stores)
    (request : Request) {s : Traced (Desk (Watched σ))}
    (hs : archive.Sound (s.state.through Watched.state)) :
    archive.Sound (((service.watched.answer request).run s).2.state.through Watched.state) ∧
      ∀ d, ((service.watched.answer request).run s).1 = .ok d →
        ∃ named old new first second, service.named request = .ok named ∧
          old.Told archive.contents d.path (some named.oldRef) first ∧
          new.Told archive.contents d.path named.newRef second ∧
          d = ⟨d.path, named.mode, named.oldRef, named.newRef, old.id, new.id, d.lines⟩ ∧
          produced (archive.blob service.store) named.mode d.path named.contextLines old new =
            .ok d.lines ∧
          ((service.watched.answer request).run s).2.state.outside.asked =
            s.state.outside.asked ++ (first ++ second) ++
              if service.cached && s.state.cache.contains s.state.now
                (service.watched.keyOf named d.path old new)
              then [] else archive.questions service.store d.path old new := by
  have hprepare := prepare_asks (archive.steady service.store hstore) request
    s.state.outside.asked ⟨s.state.outside, s.log⟩ ⟨rfl, hs.outside⟩
  rw [answer_prepared]
  cases hrun : (service.watched.prepare request).run ⟨s.state.outside, s.log⟩ with
  | mk outcome next =>
    have hlift : (Desk.lift (service.watched.prepare request) : Work (Desk (Watched σ)) _).run s =
        (outcome, ⟨{ s.state with outside := next.state }, next.log⟩) := by
      rw [Desk.lift_run, hrun]
    rw [hrun] at hprepare
    obtain ⟨hpossible, hprepared⟩ := hprepare
    cases outcome with
    | error e =>
      rw [run_bind_error hlift]
      exact ⟨⟨hpossible, hs.inFlight, hs.kept⟩, nofun⟩
    | ok prepared =>
      obtain ⟨named, path, old, new⟩ := prepared
      obtain ⟨asked, hasked, hnamed, first, second, rfl, hfirst, hsecond⟩ := hprepared _ rfl
      have hready : Desk.Sound
          (Watched.Has archive.possible (s.state.outside.asked ++ (first ++ second)))
          archive.Truth none { s.state with outside := next.state } :=
        ⟨⟨hasked, hpossible⟩, hs.inFlight, hs.kept⟩
      obtain ⟨hsound, hfinish⟩ := finish_leaves hstore hfirst.proper hsecond.proper _
        ⟨_, next.log⟩ ⟨rfl, hready⟩
      rw [run_bind_ok hlift]
      refine ⟨hsound, fun d hd => ?_⟩
      obtain ⟨⟨hlines, heq⟩, hafter⟩ := hfinish d hd
      obtain rfl : d.path = path := congrArg FileDiff.path heq
      exact ⟨named, old, new, first, second, hnamed, hfirst, hsecond, heq, hlines, hafter⟩

theorem answer_asks {archive : Archive σ} (hstore : service.store ∈ archive.stores)
    (request : Request) {s : Traced (Desk σ)} (hs : archive.Sound s.state) :
    archive.Sound ((service.answer request).run s).2.state ∧
      ∀ d, ((service.answer request).run s).1 = .ok d →
        ∃ named old new first second, service.named request = .ok named ∧
          old.Told archive.contents d.path (some named.oldRef) first ∧
          new.Told archive.contents d.path named.newRef second ∧
          d = ⟨d.path, named.mode, named.oldRef, named.newRef, old.id, new.id, d.lines⟩ ∧
          produced (archive.blob service.store) named.mode d.path named.contextLines old new =
            .ok d.lines ∧
          service.asks request s = first ++ second ++
            if service.cached && s.state.cache.contains s.state.now
              (service.keyOf named d.path old new)
            then [] else archive.questions service.store d.path old new := by
  have hmirror := service.answer_mirrors request
    ⟨⟨⟨s.state.outside, []⟩, s.state.cache, s.state.now⟩, s.log⟩
  have hanswer : (service.answer request).run s = _ := hmirror
  rw [hanswer]
  exact watched_answer hstore request hs

end DiffService

def Act.In (archive : Archive σ) : Act σ → Prop
  | .ask service _ => service.store ∈ archive.stores
  | .outside change => ∀ x, archive.possible x → archive.possible (change x)
  | _ => True

theorem Act.run_in {archive : Archive σ} {acts : List (Act σ)}
    (hacts : ∀ act ∈ acts, act.In archive) {s : Traced (Desk σ)} (hs : archive.Sound s.state) :
    archive.Sound (acts.foldl Act.after s).state :=
  Act.run_keeps (fun _ request hmem _ ht => (DiffService.answer_asks (hacts _ hmem) request ht).1)
    (fun _ hmem => hacts _ hmem) hs

/-- Whatever was asked of the services and happened around them, a diff against the working tree
looks at it once, after the old name. The identity of the new side and the output are those of the
bytes that were read. The old content is asked for only if no output is kept for the identities. -/
theorem fileDiff_snapshot {archive : Archive σ} {acts : List (Act σ)}
    (hacts : ∀ act ∈ acts, act.In archive) {outside : σ} (hpossible : archive.possible outside)
    (limits : Limits) (now : Seconds) (log : List LogRecord) {service : DiffService σ}
    (hstore : service.store ∈ archive.stores) {path : PathRequest} {oldRef : Option String}
    {context : Option Int} {s : Traced (Desk σ)} {d : FileDiff}
    (hs : acts.foldl Act.after ⟨⟨outside, .empty limits, now⟩, log⟩ = s)
    (hanswer : ((service.fileDiff path oldRef none context).run s).1 = .ok d) :
    let shown : Int := context.getD service.settings.contextLines
    let key : CacheKey := ⟨service.store.identity, d.path, d.oldId, d.newId, .hunk, some shown⟩
    let old := archive.committed service.store d.oldId d.path
    ∃ bytes : Option Bytes,
      service.asks (.file path oldRef none context) s =
        [.ref d.oldRef (.ok d.oldId), .worktree d.path (.ok bytes)] ++
          (if service.cached && s.state.cache.contains s.state.now key then []
          else [.blob d.oldId d.path (.ok old)]) ∧
      d.newId = Side.worktreeId bytes ∧
      compared .hunk d.path shown (Content.classify old) (Content.classify bytes) =
        .ok d.lines := by
  have hsound : archive.Sound s.state :=
    hs ▸ Act.run_in hacts
      ⟨hpossible, fun _ _ h => (nomatch h), fun _ he => absurd he List.not_mem_nil⟩
  obtain ⟨named, old, new, first, second, hnamed, hold, hnew, hd, hlines, hasked⟩ :=
    (DiffService.answer_asks hstore (.file path oldRef none context) hsound).2 d hanswer
  obtain rfl := DiffService.named_file hnamed
  cases hold with
  | named _ =>
    cases hnew with
    | @read bytes _ =>
      rw [hd]
      exact ⟨bytes, hasked, rfl, hlines⟩

theorem fileDiff_snapshot_kept :
    let path : RepoPath := ⟨"f", by decide⟩
    let outside : MemoryRepository :=
      ⟨[("a1", [("f", some [104, 10])])], [("main", "a1")], [("f", [none, none, some [106]])], [],
        Path.noLinks, 0, 0⟩
    let service : DiffService MemoryRepository :=
      ⟨MemoryRepository.store "/w", DiffSettings.default, true⟩
    let request : Request := .file (.known path) (some "main") none none
    let acts : List (Act MemoryRepository) := [.ask service request, .advance (.whole 5)]
    let s := acts.foldl Act.after
      ⟨⟨outside, .empty ⟨1000, .whole 60, by decide, by decide⟩, .whole 0⟩, []⟩
    let d : FileDiff := ⟨path, .hunk, "main", none, "a1", "worktree:absent",
      [.header "@@ -1,1 +0,0 @@", .removed "h" 1]⟩
    let key : CacheKey := ⟨"mem", path, "a1", "worktree:absent", .hunk, some 3⟩
    let old := (MemoryRepository.blobIn outside.commits [] "a1" path).toOption.join
    ((service.fileDiff (.known path) (some "main") none none).run s).1 = .ok d ∧
      s.state.cache.contains s.state.now key = true ∧ ∃ bytes : Option Bytes,
        service.asks request s =
          [.ref d.oldRef (.ok d.oldId), .worktree d.path (.ok bytes)] ++
            (if service.cached && s.state.cache.contains s.state.now key then []
            else [.blob d.oldId d.path (.ok old)]) ∧
        d.newId = Side.worktreeId bytes ∧
        compared .hunk d.path 3 (Content.classify old) (Content.classify bytes) = .ok d.lines := by
  intro path outside service request acts s d key old
  have hcommits (id : String) (h : Assoc.contains outside.commits id = true) :
      Side.isWorktree id = false := by
    obtain ⟨files, hget⟩ := Option.isSome_iff_exists.mp h
    obtain ⟨rfl, -⟩ := Prod.mk.inj (List.mem_singleton.mp (Assoc.mem_of_get? hget))
    decide
  have hfailing (name : Points) (fault : Fault)
      (h : Assoc.get? ([] : Assoc Points Fault) name = some fault) : fault.isInterrupt = false := by
    cases h
  let world : World MemoryRepository :=
    MemoryRepository.world hcommits hfailing (Set.injOn_singleton blobId [106]) "/w"
  have hacts : ∀ act ∈ acts, act.In world.archive := by
    intro act hact
    simp only [acts, List.mem_cons, List.not_mem_nil, or_false] at hact
    obtain rfl | rfl := hact
    · exact Set.mem_singleton _
    · trivial
  have hpossible : world.archive.possible outside := by
    refine MemoryRepository.Holds.of_tables (by decide) ?_
    simp [outside]
  have hstore : service.store ∈ world.archive.stores := Set.mem_singleton _
  have hanswer : ((service.fileDiff (.known path) (some "main") none none).run s).1 = .ok d := by
    decide +kernel
  have hkept : s.state.cache.contains s.state.now key = true := by decide +kernel
  have hs : acts.foldl Act.after
      ⟨⟨outside, .empty ⟨1000, .whole 60, by decide, by decide⟩, .whole 0⟩, []⟩ = s := rfl
  -- From here on only what is known of the run counts, so nothing computes it anew.
  clear_value s
  exact ⟨hanswer, hkept, fileDiff_snapshot hacts hpossible _ _ _ hstore hs hanswer⟩

end ReviewDiff
