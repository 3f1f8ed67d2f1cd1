import Mathlib.Data.Set.Operations
import ReviewDiff.Proofs.Work
import ReviewDiff.Repository.Resolver

/-!
# What a side stands for

As long as the digest tells the contents apart that the working tree has had, the identity of a
side says what its content is: for a commit it is what the commit holds at the path, for the
working tree it is among the bytes that went into the identity. No identity of a commit is one of
the working tree.
-/

set_option autoImplicit false

namespace ReviewDiff

open Work

variable {σ : Type} {possible : σ → Prop} {contents : Set Bytes}
  {blob : String → RepoPath → Except Fault (Option Bytes)}

theorem Sha1.wordHex_length (w : UInt32) : (Sha1.wordHex w).length = 8 := rfl

theorem blobId_length (bytes : Bytes) : (blobId bytes).toList.length = 40 := by
  simp [blobId, Sha1.hex, Sha1.wordHex_length]

namespace Side

theorem worktreeId_toList (bytes : Option Bytes) :
    (worktreeId bytes).toList = worktreeMark.toList ++ (bytes.elim "absent" blobId).toList := by
  cases bytes <;> exact String.toList_append

theorem isWorktree_worktreeId (bytes : Option Bytes) : isWorktree (worktreeId bytes) = true := by
  rw [isWorktree, worktreeId_toList, List.isPrefixOf_iff_prefix]
  exact List.prefix_append ..

theorem worktreeId_injective (hcontents : Set.InjOn blobId contents) {a b : Option Bytes}
    (ha : ∀ bytes ∈ a, bytes ∈ contents) (hb : ∀ bytes ∈ b, bytes ∈ contents)
    (h : worktreeId a = worktreeId b) : a = b := by
  have habsent (bytes : Bytes) : "absent".toList ≠ (blobId bytes).toList := fun heq =>
    absurd ((congrArg List.length heq).trans (blobId_length bytes)) (by decide)
  have hname : (a.elim "absent" blobId).toList = (b.elim "absent" blobId).toList := by
    have hlist := congrArg String.toList h
    rw [worktreeId_toList, worktreeId_toList] at hlist
    exact List.append_cancel_left hlist
  cases a with
  | none =>
    cases b with
    | none => rfl
    | some bytes => exact absurd hname (habsent bytes)
  | some bytes =>
    cases b with
    | none => exact absurd hname.symm (habsent bytes)
    | some bytes' =>
      have hdigest : blobId bytes = blobId bytes' := String.toList_injective hname
      rw [hcontents (ha bytes rfl) (hb bytes' rfl) hdigest]

inductive Proper (contents : Set Bytes) : Side → Prop
  | committed {id : String} : isWorktree id = false → Proper contents ⟨id, none⟩
  | read {bytes : Option Bytes} : (∀ b ∈ bytes, b ∈ contents) →
    Proper contents ⟨worktreeId bytes, some (Content.classify bytes)⟩

theorem Proper.eq_of_id (hcontents : Set.InjOn blobId contents) {a b : Side}
    (ha : a.Proper contents) (hb : b.Proper contents) (h : a.id = b.id) : a = b := by
  cases ha with
  | @committed id hid =>
    cases hb with
    | @committed id' _ =>
      have hsame : id = id' := h
      rw [hsame]
    | @read bytes _ =>
      have hsame : id = worktreeId bytes := h
      rw [hsame, isWorktree_worktreeId] at hid
      cases hid
  | @read bytes hread =>
    cases hb with
    | @committed id hid =>
      have hsame : worktreeId bytes = id := h
      rw [← hsame, isWorktree_worktreeId] at hid
      cases hid
    | @read bytes' hread' => rw [worktreeId_injective hcontents hread hread' h]

/-- The content of a side at a path, from what the commits hold. -/
def contentAt (blob : String → RepoPath → Except Fault (Option Bytes)) (path : RepoPath)
    (side : Side) : Except Fault Content :=
  match side.content with
  | some content => .ok content
  | none => (blob side.id path).map Content.classify

end Side

/-- In all states that are possible a store gives the same answer about a file in a commit, bytes,
or none, or a fault that is no interrupt. A name never stands for an identity of the working tree.
The bytes of the working tree are among the contents. Its questions leave the state possible. -/
structure ObjectStore.Reliable (possible : σ → Prop) (contents : Set Bytes)
    (blob : String → RepoPath → Except Fault (Option Bytes)) (store : ObjectStore σ) : Prop where
  resolveRef : ∀ name, Meets possible (store.resolveRef name) fun answer x =>
    (∀ id, answer = .ok id → Side.isWorktree id = false) ∧ possible x
  readBlob : ∀ id path, Gives possible (store.readBlob id path) (blob id path)
  readWorktree : ∀ path, Meets possible (store.readWorktree path) fun answer x =>
    (∀ bytes, answer = .ok (some bytes) → bytes ∈ contents) ∧ possible x
  uninterrupted : ∀ id path e, blob id path = .error e → e.isInterrupt = false

namespace ObjectStore

variable {store : ObjectStore σ}

theorem normalizePath_meets (request : PathRequest) :
    Meets possible (store.normalizePath request) fun _ x => possible x := by
  cases request with
  | known path => exact Meets.pure fun _ hx => hx
  | ofUser raw =>
    refine Meets.follow (R := fun _ => possible) (Meets.get fun x hx => ⟨x, rfl, hx⟩) fun outside => ?_
    refine Meets.bind (R := fun _ => possible) (Meets.ofExcept fun _ hx => hx) (fun path => ?_)
      fun _ _ hx => hx
    exact Meets.follow (R := fun _ => possible) (Meets.log fun _ hx => ⟨(), rfl, hx⟩) fun _ =>
      Meets.pure fun _ hx => hx

theorem classify_gives (path : RepoPath) (id : String) (bytes : Option Bytes) :
    Gives possible (classify path id bytes) (.ok (Content.classify bytes)) :=
  (Gives.logs _).bind fun _ _ => Gives.pure _

theorem resolveSide_meets (h : store.Reliable possible contents blob) (ref : Option String)
    (path : RepoPath) :
    Meets possible (store.resolveSide ref path) fun answer x =>
      (∀ side, answer = .ok side → side.Proper contents) ∧ possible x := by
  cases ref with
  | some name =>
    refine (h.resolveRef name).bind (fun id => Meets.pure fun x hx => ⟨?_, hx.2⟩) fun e x hx =>
      ⟨nofun, hx.2⟩
    rintro side ⟨⟩
    exact .committed (hx.1 id rfl)
  | none =>
    refine (h.readWorktree path).bind (fun bytes => ?_) fun e x hx => ⟨nofun, hx.2⟩
    refine Meets.follow (R := fun content x => content = Content.classify bytes ∧
      (∀ b ∈ bytes, b ∈ contents) ∧ possible x) ?_ fun content => Meets.pure fun x hx => ?_
    · intro s hs
      obtain ⟨hanswer, hpossible⟩ := classify_gives path (Side.worktreeId bytes) bytes s hs.2
      exact ⟨_, hanswer, rfl, fun b hb => hs.1 b (congrArg Except.ok hb), hpossible⟩
    · obtain ⟨rfl, hread, hpossible⟩ := hx
      refine ⟨?_, hpossible⟩
      rintro side ⟨⟩
      exact .read hread

theorem contentOf_gives (h : store.Reliable possible contents blob) {side : Side}
    (hside : side.Proper contents) (path : RepoPath) :
    Gives possible (store.contentOf side path) (side.contentAt blob path) := by
  cases hside with
  | @committed id hid =>
    have hload : store.contentOf ⟨id, none⟩ path =
        store.readBlob id path >>= fun bytes => classify path id bytes := by
      rw [contentOf, load, hid]
      rfl
    have hcontent : Side.contentAt blob path ⟨id, none⟩ =
        blob id path >>= fun bytes => .ok (Content.classify bytes) := by
      rw [Side.contentAt]
      cases blob id path <;> rfl
    rw [hload, hcontent]
    exact (h.readBlob id path).bind fun bytes _ => classify_gives path id bytes
  | read => exact Gives.pure _

end ObjectStore

end ReviewDiff
