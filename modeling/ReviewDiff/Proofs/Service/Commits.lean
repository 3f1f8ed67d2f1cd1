import ReviewDiff.Proofs.Service.Transparency

/-!
# Requests about two commits

A path and two refs stand for a file and two commits. Wherever the services have got to, a request
for the diff between them comes to what the commits hold at the file, with the cache and without it.
-/

set_option autoImplicit false

namespace ReviewDiff

variable {σ : Type}

def World.Reaches (world : World σ) (s : Traced (Desk σ)) : Prop :=
  ∃ (acts : List (Act σ)) (outside : σ) (limits : Limits) (now : Seconds) (log : List LogRecord),
    (∀ act ∈ acts, act.Within world) ∧ world.possible outside ∧
      acts.foldl Act.after ⟨⟨outside, .empty limits, now⟩, log⟩ = s

theorem World.Reaches.sound {world : World σ} {s : Traced (Desk σ)} (h : world.Reaches s) :
    Desk.Sound world.possible world.Truth none s.state := by
  obtain ⟨acts, outside, limits, now, log, hacts, hpossible, rfl⟩ := h
  exact Act.run_sound hacts
    ⟨hpossible, fun _ _ h => (nomatch h), fun _ he => absurd he List.not_mem_nil⟩

namespace DiffService

variable {service : DiffService σ}

/-- The names of a request are looked up one after the other: a path and two refs, which stand for
a file and two commits. -/
structure Finds (service : DiffService σ) (path : PathRequest) (oldRef newRef : String)
    (s : Traced σ) (file : RepoPath) (oldId newId : String) : Prop where
  named : oldRef ≠ "" ∧ newRef ≠ ""
  looked : ∃ first second third,
    (service.store.normalizePath path).run s = (.ok file, first) ∧
    (service.store.resolveRef oldRef).run first = (.ok oldId, second) ∧
    (service.store.resolveRef newRef).run second = (.ok newId, third)

variable {path : PathRequest} {oldRef newRef : String} {s : Traced σ} {file : RepoPath}
  {oldId newId : String}

theorem prepare_finds (h : service.Finds path oldRef newRef s file oldId newId) {request : Request}
    {mode : DiffMode} {context : Option Int}
    (hnamed : service.named request = .ok ⟨mode, path, oldRef, some newRef, context⟩) :
    ∃ next, (service.prepare request).run s =
      (.ok (⟨mode, path, oldRef, some newRef, context⟩, file, ⟨oldId, none⟩, ⟨newId, none⟩),
        next) := by
  obtain ⟨first, second, third, hfile, hold, hnew⟩ := h.looked
  have hsides : ∃ next, (service.sides ⟨mode, path, oldRef, some newRef, context⟩ file).run first =
      (.ok (⟨oldId, none⟩, ⟨newId, none⟩), next) := by
    have holdSide : (service.store.resolveSide (some oldRef) file).run first =
        (.ok ⟨oldId, none⟩, second) := Work.run_bind_ok hold
    have hnewSide : (service.store.resolveSide (some newRef) file).run second =
        (.ok ⟨newId, none⟩, third) := Work.run_bind_ok hnew
    rw [sides, Work.run_bind_ok holdSide, Work.run_bind_ok hnewSide]
    exact ⟨_, rfl⟩
  obtain ⟨next, hnext⟩ := hsides
  refine ⟨next, ?_⟩
  rw [prepare, hnamed]
  have hrequest : (Work.ofExcept (.ok ⟨mode, path, oldRef, some newRef, context⟩) :
      Work σ DiffRequest).run s = (.ok ⟨mode, path, oldRef, some newRef, context⟩, s) := rfl
  rw [Work.run_bind_ok hrequest, Work.run_bind_ok hfile, Work.run_bind_ok hnext]
  rfl

theorem nameOr_named {missing name : String} (h : name ≠ "") :
    nameOr missing (some name) = name := by
  simp [nameOr, h]

theorem named_hunk (h : oldRef ≠ "") {context : Option Int}
    (hcontext : 0 ≤ context.getD service.settings.contextLines) :
    service.named (.file path (some oldRef) (some newRef) context) =
      .ok ⟨.hunk, path, oldRef, some newRef,
        some (context.getD service.settings.contextLines)⟩ := by
  simp only [named, nameOr_named h]
  rw [if_neg (by omega)]

theorem named_complete (hold : oldRef ≠ "") (hnew : newRef ≠ "") :
    service.named (.complete path (some oldRef) (some newRef)) =
      .ok ⟨.complete, path, oldRef, some newRef, none⟩ := by
  simp [named, nameOr_named hold, nameOr_named hnew, hold, hnew]

theorem answerIn_found {world : World σ} (hstore : service.store ∈ world.stores)
    {s : Traced (Desk σ)} (hs : Desk.Sound world.possible world.Truth none s.state)
    (h : service.Finds path oldRef newRef ⟨s.state.outside, s.log⟩ file oldId newId)
    {old new : Option Bytes} (hold : world.blob service.store oldId file = .ok old)
    (hnew : world.blob service.store newId file = .ok new)
    {request : Request} {mode : DiffMode} {context : Option Int}
    (hnamed : service.named request = .ok ⟨mode, path, oldRef, some newRef, context⟩)
    {lines : List DiffLine}
    (hlines : compared mode file (context.getD 0) (Content.classify old) (Content.classify new) =
      .ok lines) {cached : Bool}
    (hshown : cached = true → mode = .hunk → BinaryChange old new → file.value.Encodable) :
    service.answerIn cached request s =
      .ok ⟨file, mode, oldRef, some newRef, oldId, newId, lines⟩ := by
  obtain ⟨next, hprepare⟩ := prepare_finds h hnamed
  rw [answerIn_outcome hstore hprepare hs cached, outcome]
  have hproduced : produced (world.blob service.store) mode file context ⟨oldId, none⟩
      ⟨newId, none⟩ = .ok lines := by
    simp only [produced, Side.contentAt, hold, hnew, Except.map]
    exact hlines
  simp only [hproduced]
  cases cached with
  | true =>
    obtain ⟨size, hsize⟩ := compared_size (hshown rfl) hlines
    simp only [if_true, DiffCache.reply, id, hsize]
    rfl
  | false => rfl

theorem finds_memory {workingDir : String} {settings : DiffSettings} {cached : Bool}
    {s : Traced MemoryRepository} (hnamed : oldRef ≠ "" ∧ newRef ≠ "")
    (hfailing : s.state.failing = []) (hold : s.state.refs.get? oldRef = some oldId)
    (hnew : s.state.refs.get? newRef = some newId) :
    DiffService.Finds ⟨MemoryRepository.store workingDir, settings, cached⟩ (.known file) oldRef
      newRef s file oldId newId :=
  ⟨hnamed, _, _, _, rfl, MemoryRepository.resolveRef_run (by rw [hfailing]; rfl) hold,
    MemoryRepository.resolveRef_run (by rw [hfailing]; rfl) hnew⟩

end DiffService

end ReviewDiff
