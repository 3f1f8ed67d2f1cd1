import ReviewDiff.Proofs.Diff.Contents
import ReviewDiff.Proofs.Repository.Sides
import ReviewDiff.Proofs.Text.Lines
import ReviewDiff.Service.Compare

/-!
# What a comparison comes to

The output for two sides, said without any state: from the contents that the commits hold and those
that were read from the working tree. Computing comes to exactly this, in every state that is
possible, and a fault of it is never an interrupt. The output has a size unless it has to name a
file whose name has no bytes.
-/

set_option autoImplicit false

namespace ReviewDiff

open Work

variable {σ : Type}

def compared (mode : DiffMode) (path : RepoPath) (context : Int) (old new : Content) :
    Except Fault (List DiffLine) :=
  if old.isBinary || new.isBinary then
    .ok (if mode = .hunk && old ≠ new then [binaryMarker path] else [])
  else textDiff mode context old.texts new.texts

def produced (blob : String → RepoPath → Except Fault (Option Bytes)) (mode : DiffMode)
    (path : RepoPath) (context : Option Int) (old new : Side) : Except Fault (List DiffLine) := do
  let oldContent ← old.contentAt blob path
  let newContent ← new.contentAt blob path
  compared mode path (context.getD 0) oldContent newContent

/-- From what the commits of some stores hold, the lines are the output for sides that have the
identities of the key. -/
def CacheKey.Tells (stores : Set (ObjectStore σ)) (contents : Set Bytes)
    (blob : ObjectStore σ → String → RepoPath → Except Fault (Option Bytes)) (key : CacheKey)
    (lines : List DiffLine) : Prop :=
  ∃ store ∈ stores, ∃ old new : Side, store.identity = key.repository ∧
    old.Proper contents ∧ new.Proper contents ∧ old.id = key.oldId ∧ new.id = key.newId ∧
    produced (blob store) key.mode key.path key.contextLines old new = .ok lines

/-- The bytes differ, and those of a side are no text. -/
def BinaryChange (old new : Option Bytes) : Prop :=
  ((Content.classify old).isBinary = true ∨ (Content.classify new).isBinary = true) ∧ old ≠ new

theorem texts_encodable (data : Option Bytes) :
    ∀ text ∈ (Content.classify data).texts, text.Encodable := by
  cases data with
  | none => exact fun _ htext => absurd htext List.not_mem_nil
  | some bytes =>
    rw [Content.classify, Content.ofBytes]
    split
    · exact fun _ htext => absurd htext List.not_mem_nil
    · split
      · exact fun _ htext => absurd htext List.not_mem_nil
      · exact LineRecord.split_encodable (Points.encodable_ofChars _)

theorem textDiff_size {mode : DiffMode} {context : Int} {old new : List Points}
    {lines : List DiffLine} (hold : ∀ text ∈ old, text.Encodable)
    (hnew : ∀ text ∈ new, text.Encodable) (h : textDiff mode context old new = .ok lines) :
    ∃ size, estimateSize lines = .ok size := by
  have htexts : ∀ text ∈ old ++ new, text.Encodable :=
    fun text htext => (List.mem_append.mp htext).elim (hold text) (hnew text)
  cases mode with
  | hunk =>
    obtain ⟨hunks, hhunks, rfl⟩ := map_ok h
    exact output_size fun hunk hmem line hline =>
      htexts _ (ofScript_content (mapError_ok.mp hhunks) hunk hmem line hline)
  | complete =>
    exact estimateSize_ok fun line hline =>
      htexts _ (completeLines_content (mapError_ok.mp h) line hline)

theorem compared_size {mode : DiffMode} {path : RepoPath} {context : Int} {old new : Option Bytes}
    {lines : List DiffLine} (hpath : mode = .hunk → BinaryChange old new → path.value.Encodable)
    (h : compared mode path context (Content.classify old) (Content.classify new) = .ok lines) :
    ∃ size, estimateSize lines = .ok size := by
  rw [compared] at h
  split at h
  · rename_i hbinary
    obtain rfl := Except.ok.inj h
    refine estimateSize_ok fun line hline => ?_
    split at hline
    · rename_i hchanged
      obtain rfl := List.mem_singleton.mp hline
      simp only [Bool.and_eq_true, decide_eq_true_eq] at hchanged
      have hne : old ≠ new := fun heq => hchanged.2 (congrArg Content.classify heq)
      have hvalue := hpath hchanged.1 ⟨(Bool.or_eq_true _ _).mp hbinary, hne⟩
      have htext (s : String) : (s : Points).Encodable := Points.encodable_ofString s
      exact ((((htext _).append hvalue).append (htext _)).append hvalue).append (htext _)
    · cases hline
  · exact textDiff_size (texts_encodable old) (texts_encodable new) h

theorem CacheKey.tells_iff {stores : Set (ObjectStore σ)} {contents : Set Bytes}
    {blob : ObjectStore σ → String → RepoPath → Except Fault (Option Bytes)}
    (hdistinct : ∀ a ∈ stores, ∀ b ∈ stores, a.identity = b.identity → a = b)
    (hapart : Set.InjOn blobId contents) {store : ObjectStore σ} (hstore : store ∈ stores)
    {old new : Side} (hold : old.Proper contents) (hnew : new.Proper contents) (mode : DiffMode)
    (path : RepoPath) (context : Option Int) (lines : List DiffLine) :
    CacheKey.Tells stores contents blob ⟨store.identity, path, old.id, new.id, mode, context⟩
        lines ↔
      produced (blob store) mode path context old new = .ok lines := by
  constructor
  · rintro ⟨store', hmem, old', new', hidentity, hold', hnew', holdId, hnewId, hlines⟩
    obtain rfl := hdistinct store' hmem store hstore hidentity
    obtain rfl := hold'.eq_of_id hapart hold holdId
    obtain rfl := hnew'.eq_of_id hapart hnew hnewId
    exact hlines
  · intro hlines
    exact ⟨store, hstore, old, new, rfl, hold, hnew, rfl, rfl, hlines⟩

theorem textDiff_uninterrupted {mode : DiffMode} {context : Int} {old new : List Points} {e : Fault}
    (h : textDiff mode context old new = .error e) : e.isInterrupt = false := by
  cases mode with
  | hunk =>
    obtain ⟨fault, -, rfl⟩ := mapError_error (map_error h)
    rfl
  | complete =>
    obtain ⟨fault, -, rfl⟩ := mapError_error h
    rfl

variable {possible : σ → Prop} {contents : Set Bytes}
  {blob : String → RepoPath → Except Fault (Option Bytes)} {mode : DiffMode} {path : RepoPath}
  {context : Option Int} {old new : Side}

theorem contentAt_uninterrupted
    (hblob : ∀ id path e, blob id path = .error e → e.isInterrupt = false) {side : Side} {e : Fault}
    (h : side.contentAt blob path = .error e) : e.isInterrupt = false := by
  rw [Side.contentAt] at h
  split at h
  · cases h
  · exact hblob side.id path e (map_error h)

theorem produced_uninterrupted
    (hblob : ∀ id path e, blob id path = .error e → e.isInterrupt = false) {e : Fault}
    (h : produced blob mode path context old new = .error e) : e.isInterrupt = false := by
  obtain hold | ⟨oldContent, -, h⟩ := bind_error h
  · exact contentAt_uninterrupted hblob hold
  obtain hnew | ⟨newContent, -, h⟩ := bind_error h
  · exact contentAt_uninterrupted hblob hnew
  rw [compared] at h
  split at h
  · cases h
  · exact textDiff_uninterrupted h

theorem compare_gives (mode : DiffMode) (path : RepoPath) (context : Int) (old new : Content) :
    Gives possible (DiffService.compare mode path context old new)
      (compared mode path context old new) := by
  rw [DiffService.compare, compared]
  split
  · exact Gives.pure _
  · have hlogged (lines : List DiffLine) : Gives possible
        (do Work.log (.diff .debug
              (s!"Computed {lines.length} {mode.name} lines for " ++ path.value))
            return lines) (.ok lines) :=
      (Gives.log _).bind fun _ _ => Gives.pure lines
    refine Meets.mono ((Gives.ofExcept (textDiff mode context old.texts new.texts)).bind
      fun lines _ => hlogged lines) (fun _ hx => hx) fun answer x hx => ⟨hx.1.trans ?_, hx.2⟩
    cases textDiff mode context old.texts new.texts <;> rfl

theorem compute_gives {service : DiffService σ}
    (h : service.store.Reliable possible contents blob) (hold : old.Proper contents)
    (hnew : new.Proper contents) :
    Gives possible (service.compute mode path (context.getD 0) old new)
      (produced blob mode path context old new) :=
  (ObjectStore.contentOf_gives h hold path).bind fun oldContent _ =>
    (ObjectStore.contentOf_gives h hnew path).bind fun newContent _ =>
      compare_gives mode path (context.getD 0) oldContent newContent

end ReviewDiff
