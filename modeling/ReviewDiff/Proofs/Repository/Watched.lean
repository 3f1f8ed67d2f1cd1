import ReviewDiff.Proofs.Repository.Sides

/-!
# What a store is asked

Every question to a watched store is written down with its answer; apart from that it is the store
that is watched. The working tree is asked for a side without a ref, while the side is
resolved and never again. A commit is asked for its name then, and for a file when the content of
the side is needed.
-/

set_option autoImplicit false

namespace ReviewDiff

open Work

variable {σ α β : Type}

inductive Asked where
  | ref (name : String) (answer : Except Fault String)
  | blob (id : String) (path : RepoPath) (answer : Except Fault (Option Bytes))
  | worktree (path : RepoPath) (answer : Except Fault (Option Bytes))

structure Watched (σ : Type) where
  state : σ
  asked : List Asked

def Watched.Has (possible : σ → Prop) (asked : List Asked) (x : Watched σ) : Prop :=
  x.asked = asked ∧ possible x.state

def Work.watch (question : Except Fault α → Asked) (t : Work σ α) : Work (Watched σ) α :=
  Work.mk fun s =>
    let (answer, next) := t.run ⟨s.state.state, s.log⟩
    (answer, ⟨⟨next.state, s.state.asked ++ [question answer]⟩, next.log⟩)

def ObjectStore.watched (store : ObjectStore σ) : ObjectStore (Watched σ) where
  identity := store.identity
  workingDir := store.workingDir
  links x := store.links x.state
  resolveRef name := (store.resolveRef name).watch (.ref name)
  readBlob id path := (store.readBlob id path).watch (.blob id path)
  readWorktree path := (store.readWorktree path).watch (.worktree path)

namespace Work

/-- Work leaves a possible state possible. If it comes to an answer, its questions and the answer
are related as given. -/
def Asks (possible : σ → Prop) (t : Work (Watched σ) α) (R : α → List Asked → Prop) : Prop :=
  ∀ before, Meets (Watched.Has possible before) t fun outcome x =>
    possible x.state ∧ ∀ a, outcome = .ok a → ∃ asked, x.asked = before ++ asked ∧ R a asked

namespace Asks

variable {possible : σ → Prop} {t : Work (Watched σ) α} {f : α → Work (Watched σ) β}
  {R R' : α → List Asked → Prop} {S : β → List Asked → Prop}

theorem pure {a : α} (h : R a []) : Asks possible (Pure.pure a) R := by
  refine fun before => Meets.pure fun x hx => ⟨hx.2, ?_⟩
  rintro _ ⟨⟩
  exact ⟨[], by rw [hx.1, List.append_nil], h⟩

theorem mono (ht : Asks possible t R) (h : ∀ a asked, R a asked → R' a asked) :
    Asks possible t R' := by
  refine fun before => (ht before).mono (fun _ hx => hx) fun outcome x hx => ⟨hx.1, fun a ha => ?_⟩
  obtain ⟨asked, hasked, hR⟩ := hx.2 a ha
  exact ⟨asked, hasked, h a asked hR⟩

theorem quiet {Q : Except Fault α → Prop}
    (ht : ∀ before, Meets (Watched.Has possible before) t fun outcome x =>
      Q outcome ∧ Watched.Has possible before x) :
    Asks possible t fun a asked => Q (.ok a) ∧ asked = [] := by
  refine fun before => (ht before).mono (fun _ hx => hx) fun outcome x hx => ⟨hx.2.2, ?_⟩
  rintro a rfl
  exact ⟨[], by rw [hx.2.1, List.append_nil], hx.1, rfl⟩

theorem gives {outcome : Except Fault α}
    (ht : ∀ before, Gives (Watched.Has possible before) t outcome) :
    Asks possible t fun a asked => outcome = .ok a ∧ asked = [] :=
  (quiet (Q := fun answer => answer = outcome) ht).mono fun _ _ h => ⟨h.1.symm, h.2⟩

theorem bind (ht : Asks possible t R)
    (hf : ∀ a asked, R a asked → Asks possible (f a) fun b later => S b (asked ++ later)) :
    Asks possible (t >>= f) S := by
  intro before
  refine Meets.bind (ht before) (fun a s hs => ?_) fun _ _ hx => ⟨hx.1, nofun⟩
  obtain ⟨hpossible, hanswer⟩ := hs
  obtain ⟨asked, hasked, hR⟩ := hanswer a rfl
  obtain ⟨hafter, hnext⟩ := hf a asked hR (before ++ asked) s ⟨hasked, hpossible⟩
  refine ⟨hafter, fun b hb => ?_⟩
  obtain ⟨later, hlater, hS⟩ := hnext b hb
  exact ⟨asked ++ later, by rw [hlater, List.append_assoc], hS⟩

theorem follow {Q : α → Prop} (ht : Asks possible t fun a asked => Q a ∧ asked = [])
    (hf : ∀ a, Q a → Asks possible (f a) S) : Asks possible (t >>= f) S := by
  refine ht.bind fun a asked h => ?_
  obtain ⟨hQ, rfl⟩ := h
  exact hf a hQ

theorem watch {t : Work σ α} {question : Except Fault α → Asked} {Q : Except Fault α → Prop}
    (ht : Meets possible t fun answer x => Q answer ∧ possible x) :
    Asks possible (t.watch question) fun a asked => Q (.ok a) ∧ asked = [question (.ok a)] := by
  intro before s hs
  obtain ⟨hQ, hpossible⟩ := ht ⟨s.state.state, s.log⟩ hs.2
  refine ⟨hpossible, fun a ha => ?_⟩
  have hanswer : (t.run ⟨s.state.state, s.log⟩).1 = .ok a := ha
  refine ⟨[question (.ok a)], ?_, hanswer ▸ hQ, rfl⟩
  rw [← hanswer, ← hs.1]
  rfl

end Asks

end Work

/-- In all states that are possible a file in a commit has one and the same content, whenever
reading it comes to an answer. A name never stands for an identity of the working tree. The bytes of
the working tree are among the contents. Questions leave the state possible. -/
structure ObjectStore.Steady (possible : σ → Prop) (contents : Set Bytes)
    (committed : String → RepoPath → Option Bytes) (store : ObjectStore σ) : Prop where
  resolveRef : ∀ name, Meets possible (store.resolveRef name) fun answer x =>
    (∀ id, answer = .ok id → Side.isWorktree id = false) ∧ possible x
  readBlob : ∀ id path, Meets possible (store.readBlob id path) fun answer x =>
    (∀ bytes, answer = .ok bytes → bytes = committed id path) ∧ possible x
  readWorktree : ∀ path, Meets possible (store.readWorktree path) fun answer x =>
    (∀ bytes, answer = .ok (some bytes) → bytes ∈ contents) ∧ possible x

variable {possible : σ → Prop} {contents : Set Bytes}
  {committed : String → RepoPath → Option Bytes}

theorem ObjectStore.Reliable.steady {blob : String → RepoPath → Except Fault (Option Bytes)}
    {store : ObjectStore σ} (h : store.Reliable possible contents blob) :
    store.Steady possible contents fun id path => (blob id path).toOption.join where
  resolveRef := h.resolveRef
  readBlob id path := (h.readBlob id path).mono (fun _ hx => hx) fun answer x hx => by
    refine ⟨fun bytes heq => ?_, hx.2⟩
    rw [← hx.1, heq]
    rfl
  readWorktree := h.readWorktree

namespace Side

inductive Told (contents : Set Bytes) (path : RepoPath) :
    Option String → Side → List Asked → Prop
  | named {name id : String} : isWorktree id = false →
    Told contents path (some name) ⟨id, none⟩ [.ref name (.ok id)]
  | read {bytes : Option Bytes} : (∀ b ∈ bytes, b ∈ contents) →
    Told contents path none ⟨worktreeId bytes, some (Content.classify bytes)⟩
      [.worktree path (.ok bytes)]

theorem Told.proper {path : RepoPath} {ref : Option String} {side : Side} {asked : List Asked}
    (h : side.Told contents path ref asked) : side.Proper contents := by
  cases h with
  | named hid => exact .committed hid
  | read hbytes => exact .read hbytes

/-- The questions for the content of a side: one for a commit, and none for the working tree, whose
content came with the side. -/
def questions (committed : String → RepoPath → Option Bytes) (path : RepoPath) (side : Side) :
    List Asked :=
  match side.content with
  | some _ => []
  | none => [.blob side.id path (.ok (committed side.id path))]

end Side

namespace ObjectStore

variable {store : ObjectStore σ}

theorem normalizePath_asks (request : PathRequest) :
    Asks possible (store.watched.normalizePath request) fun _ asked => True ∧ asked = [] :=
  Asks.quiet (Q := fun _ => True) fun _ =>
    (normalizePath_meets request).mono (fun _ h => h) fun _ _ h => ⟨trivial, h⟩

theorem resolveSide_asks (h : store.Steady possible contents committed) (ref : Option String)
    (path : RepoPath) :
    Asks possible (store.watched.resolveSide ref path) fun side asked =>
      side.Told contents path ref asked := by
  cases ref with
  | some name =>
    refine (Asks.watch (h.resolveRef name)).bind fun id asked hid => Asks.pure ?_
    obtain ⟨hcommit, rfl⟩ := hid
    exact .named (hcommit id rfl)
  | none =>
    refine (Asks.watch (h.readWorktree path)).bind fun bytes asked hbytes => ?_
    obtain ⟨hcontents, rfl⟩ := hbytes
    have hclassify : Asks possible (classify path (Side.worktreeId bytes) bytes) _ :=
      Asks.gives fun _ => classify_gives path _ bytes
    refine hclassify.follow fun content hcontent => Asks.pure ?_
    obtain rfl := Except.ok.inj hcontent
    exact .read fun b hb => hcontents b (congrArg Except.ok hb)

theorem contentOf_asks (h : store.Steady possible contents committed) {side : Side}
    (hside : side.Proper contents) (path : RepoPath) :
    Asks possible (store.watched.contentOf side path) fun content asked =>
      side.contentAt (fun id path => .ok (committed id path)) path = .ok content ∧
        asked = side.questions committed path := by
  cases hside with
  | @committed id hid =>
    rw [contentOf, load, hid]
    refine (Asks.watch (h.readBlob id path)).bind fun bytes asked hbytes => ?_
    obtain ⟨hcommitted, rfl⟩ := hbytes
    obtain rfl := hcommitted bytes rfl
    have hclassify : Asks possible (classify path id (committed id path)) _ :=
      Asks.gives fun _ => classify_gives path id _
    refine hclassify.mono fun content asked hcontent => ?_
    obtain ⟨hcontent, rfl⟩ := hcontent
    exact ⟨hcontent, rfl⟩
  | read => exact Asks.pure ⟨rfl, rfl⟩

theorem watch_mirrors (question : Except Fault α → Asked) (t : Work σ α) :
    Mirrors Watched.state (t.watch question) t := fun _ => rfl

theorem normalizePath_mirrors (store : ObjectStore σ) (request : PathRequest) :
    Mirrors Watched.state (store.watched.normalizePath request) (store.normalizePath request) := by
  cases request with
  | known path => exact Mirrors.pure path
  | ofUser raw =>
    exact Mirrors.get_bind fun _ =>
      (Mirrors.ofExcept _).bind fun path => (Mirrors.log _).bind fun _ => Mirrors.pure path

theorem classify_mirrors (path : RepoPath) (id : String) (bytes : Option Bytes) :
    Mirrors (Watched.state (σ := σ)) (classify path id bytes) (classify path id bytes) :=
  (Mirrors.logs _).bind fun _ => Mirrors.pure _

theorem resolveSide_mirrors (store : ObjectStore σ) (ref : Option String) (path : RepoPath) :
    Mirrors Watched.state (store.watched.resolveSide ref path) (store.resolveSide ref path) := by
  cases ref with
  | some name => exact (watch_mirrors _ _).bind fun id => Mirrors.pure _
  | none =>
    exact (watch_mirrors _ _).bind fun bytes =>
      (classify_mirrors path _ bytes).bind fun content => Mirrors.pure _

theorem load_mirrors (store : ObjectStore σ) (id : String) (path : RepoPath) :
    Mirrors Watched.state (store.watched.load id path) (store.load id path) := by
  rw [load, load]
  split <;> exact (watch_mirrors _ _).bind fun bytes => classify_mirrors path id bytes

theorem contentOf_mirrors (store : ObjectStore σ) (side : Side) (path : RepoPath) :
    Mirrors Watched.state (store.watched.contentOf side path) (store.contentOf side path) := by
  rw [contentOf, contentOf]
  cases side.content with
  | some content => exact Mirrors.pure content
  | none => exact load_mirrors store side.id path

end ObjectStore

end ReviewDiff
