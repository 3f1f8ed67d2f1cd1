import ReviewDiff.Proofs.Repository.Sides
import ReviewDiff.Repository.Memory

/-!
# A repository in memory is reliable

Names may move and files of the working tree may change, as long as the commits and what is set to
fail stay the same, no name stands for an identity of the working tree, and the files of the working
tree have their bytes from a given set.
-/

set_option autoImplicit false

namespace ReviewDiff.MemoryRepository

open Work

/-- What a repository has while its names and its working tree change. -/
structure Holds (commits : Assoc String (Assoc Points (Option Bytes)))
    (failing : Assoc Points Fault) (contents : Set Bytes) (r : MemoryRepository) : Prop where
  commits : r.commits = commits
  failing : r.failing = failing
  refs : ∀ name id, r.refs.get? name = some id → Side.isWorktree id = false
  worktree : ∀ path versions, r.worktree.get? path = some versions →
    ∀ version ∈ versions, ∀ bytes ∈ version, bytes ∈ contents

def blobIn (commits : Assoc String (Assoc Points (Option Bytes))) (failing : Assoc Points Fault)
    (id : String) (path : RepoPath) : Except Fault (Option Bytes) :=
  match failing.get? path.value, commits.get? id with
  | some fault, _ => .error fault
  | none, none => .error (.repository s!"missing object {id}")
  | none, some files => .ok (files.get? path.value).join

variable {commits : Assoc String (Assoc Points (Option Bytes))} {failing : Assoc Points Fault}
  {contents : Set Bytes}

theorem Holds.of_tables {r : MemoryRepository} {contents : Set Bytes}
    (hrefs : ∀ entry ∈ r.refs, Side.isWorktree entry.2 = false)
    (hworktree : ∀ entry ∈ r.worktree, ∀ version ∈ entry.2, ∀ bytes ∈ version, bytes ∈ contents) :
    Holds r.commits r.failing contents r where
  commits := rfl
  failing := rfl
  refs _ _ hget := hrefs _ (Assoc.mem_of_get? hget)
  worktree _ _ hget := hworktree _ (Assoc.mem_of_get? hget)

theorem commits_table {commits : Assoc String (Assoc Points (Option Bytes))}
    (h : ∀ entry ∈ commits, Side.isWorktree entry.1 = false) (id : String)
    (hid : commits.contains id = true) : Side.isWorktree id = false := by
  obtain ⟨files, hget⟩ := Option.isSome_iff_exists.mp hid
  exact h _ (Assoc.mem_of_get? hget)

theorem takeVersion_mem {versions : List (Option Bytes)} {version : Option Bytes}
    (h : version ∈ (takeVersion versions).2) : version ∈ versions := by
  match versions with
  | [] => exact h
  | [last] => exact h
  | first :: second :: rest => exact List.mem_cons_of_mem first h

theorem takeVersion_first {versions : List (Option Bytes)} {bytes : Bytes}
    (h : (takeVersion versions).1 = some bytes) : some bytes ∈ versions := by
  match versions with
  | [] => cases h
  | [last] => exact h ▸ List.mem_singleton_self _
  | first :: second :: rest => exact h ▸ List.mem_cons_self

theorem Holds.versions {r : MemoryRepository} (h : Holds commits failing contents r) (path : Points)
    {version : Option Bytes} (hversion : version ∈ (r.worktree.get? path).getD []) :
    ∀ bytes ∈ version, bytes ∈ contents := by
  cases hget : r.worktree.get? path with
  | none =>
    rw [hget] at hversion
    cases hversion
  | some versions =>
    rw [hget] at hversion
    exact h.worktree path versions hget version hversion

theorem resolveRef_meets (hcommits : ∀ id, commits.contains id = true → Side.isWorktree id = false)
    (name : String) :
    Meets (Holds commits failing contents) (resolveRef name) fun answer r =>
      (∀ id, answer = .ok id → Side.isWorktree id = false) ∧ Holds commits failing contents r := by
  refine Meets.follow (R := fun r now => r = now ∧ Holds commits failing contents now)
    (Meets.get fun r hr => ⟨r, rfl, rfl, hr⟩) fun r => ?_
  split
  · exact Meets.fail fun now h => ⟨fun _ h => (nomatch h), h.2⟩
  · rename_i id _ href
    refine Meets.pure fun now h => ⟨?_, h.2⟩
    rintro _ ⟨⟩
    exact (h.1 ▸ h.2).refs name id href
  · split
    · rename_i hknown
      refine Meets.pure fun now h => ⟨?_, h.2⟩
      rintro _ ⟨⟩
      refine hcommits name ?_
      rwa [← h.2.commits, ← h.1]
    · exact Meets.fail fun now h => ⟨fun _ h => (nomatch h), h.2⟩

theorem resolveRef_run {s : Traced MemoryRepository} {name id : String}
    (hfailing : s.state.failing.get? name = none) (href : s.state.refs.get? name = some id) :
    (resolveRef name).run s = (.ok id, s) := by
  have hget : (Work.get : Work MemoryRepository MemoryRepository).run s = (.ok s.state, s) := rfl
  rw [resolveRef, run_bind_ok hget, hfailing, href]
  rfl

theorem readBlob_gives (id : String) (path : RepoPath) :
    Gives (Holds commits failing contents) (readBlob id path) (blobIn commits failing id path) := by
  refine Meets.follow (R := fun _ => Holds commits failing contents)
    (Meets.modify fun r hr => ⟨(), rfl, hr.commits, hr.failing, hr.refs, hr.worktree⟩) fun _ => ?_
  refine Meets.follow (R := fun r now => r = now ∧ Holds commits failing contents now)
    (Meets.get fun r hr => ⟨r, rfl, rfl, hr⟩) fun r => ?_
  intro s hs
  obtain ⟨rfl, hholds⟩ := hs
  have hblob : blobIn commits failing id path = blobIn s.state.commits s.state.failing id path := by
    rw [hholds.commits, hholds.failing]
  rw [hblob, blobIn]
  cases s.state.failing.get? path.value with
  | some fault => exact ⟨rfl, hholds⟩
  | none =>
    cases s.state.commits.get? id with
    | some files => exact ⟨rfl, hholds⟩
    | none => exact ⟨rfl, hholds⟩

theorem readWorktree_meets (path : RepoPath) :
    Meets (Holds commits failing contents) (readWorktree path) fun answer r =>
      (∀ bytes, answer = .ok (some bytes) → bytes ∈ contents) ∧
        Holds commits failing contents r := by
  refine Meets.change fun r hr => ⟨fun bytes h => ?_, ?_⟩
  · have hfirst : (takeVersion ((r.worktree.get? path.value).getD [])).1 = some bytes :=
      Except.ok.inj h
    exact hr.versions path.value (takeVersion_first hfirst) bytes rfl
  · refine ⟨hr.commits, hr.failing, hr.refs, fun other versions hget => ?_⟩
    dsimp only at hget
    split at hget
    · exact hr.worktree other versions hget
    · by_cases hpath : path.value = other
      · rw [hpath, Assoc.get?_put_self] at hget
        obtain rfl := Option.some.inj hget
        exact fun version hversion => hr.versions other (takeVersion_mem hversion)
      · rw [Assoc.get?_put_ne _ _ hpath] at hget
        exact hr.worktree other versions hget

/-- The store of a repository in memory, while its commits and what is set to fail stay the same. -/
theorem store_reliable (hcommits : ∀ id, commits.contains id = true → Side.isWorktree id = false)
    (hfailing : ∀ name fault, failing.get? name = some fault → fault.isInterrupt = false)
    (workingDir : String) :
    (store workingDir).Reliable (Holds commits failing contents) contents
      (blobIn commits failing) where
  resolveRef := resolveRef_meets hcommits
  readBlob := readBlob_gives
  readWorktree := readWorktree_meets
  uninterrupted id path e h := by
    rw [blobIn] at h
    split at h <;> cases h
    · exact hfailing _ _ ‹_›
    · rfl

end ReviewDiff.MemoryRepository
