import Mathlib.Data.Set.Function
import ReviewDiff.Proofs.Cache.Transparency
import ReviewDiff.Proofs.Repository.Memory
import ReviewDiff.Proofs.Service.Output

/-!
# Services with one cache

Services that share a cache answer every request as they would without it, whatever was asked,
moved, edited and invalidated before. The key of an output holds all that shapes it: the
repository, the path, the identities of both sides, the mode and the context. So an output that is
kept under a key is the one that computing would give now, although names and files have changed in
the meantime.

Only where the output has no size the cache shows. Then the first request gets an error and leaves
the key behind, and all later requests for the key wait for ever.
-/

set_option autoImplicit false

namespace ReviewDiff

open Work

/-- Object stores that share what lies outside. Their identities are distinct, each is reliable, and
the digest tells the contents apart that their working trees may have. -/
structure World (σ : Type) where
  /-- The states that may come. -/
  possible : σ → Prop
  stores : Set (ObjectStore σ)
  contents : Set Bytes
  /-- What the commits of a store hold. -/
  blob : ObjectStore σ → String → RepoPath → Except Fault (Option Bytes)
  reliable : ∀ store ∈ stores, store.Reliable possible contents (blob store)
  distinct : ∀ a ∈ stores, ∀ b ∈ stores, a.identity = b.identity → a = b
  apart : Set.InjOn blobId contents

inductive Request where
  | file (path : PathRequest) (oldRef newRef : Option String) (context : Option Int)
  | complete (path : PathRequest) (oldRef newRef : Option String)

variable {σ : Type}

namespace World

variable (world : World σ)

def Truth (key : CacheKey) (lines : List DiffLine) : Prop :=
  key.Tells world.stores world.contents world.blob lines

theorem truth_iff {service : DiffService σ} (hstore : service.store ∈ world.stores)
    {old new : Side} (hold : old.Proper world.contents) (hnew : new.Proper world.contents)
    (request : DiffRequest) (path : RepoPath) (lines : List DiffLine) :
    world.Truth (service.keyOf request path old new) lines ↔
      produced (world.blob service.store) request.mode path request.contextLines old new =
        .ok lines :=
  CacheKey.tells_iff world.distinct world.apart hstore hold hnew _ _ _ lines

end World

namespace DiffService

variable (service : DiffService σ)

def answer : Request → Work (Desk σ) FileDiff
  | .file path oldRef newRef context => service.fileDiff path oldRef newRef context
  | .complete path oldRef newRef => service.completeDiff path oldRef newRef

def named : Request → Except Fault DiffRequest
  | .file path oldRef newRef context =>
    let context := context.getD service.settings.contextLines
    if context < 0 then .error (.hunks (.negativeContext context))
    else .ok ⟨.hunk, path, nameOr service.settings.defaultOldRef oldRef, newRef, some context⟩
  | .complete path oldRef newRef =>
    if (nameOr "" oldRef).isEmpty || (nameOr "" newRef).isEmpty then .error .oneSided
    else .ok ⟨.complete, path, nameOr "" oldRef, some (nameOr "" newRef), none⟩

def prepare (request : Request) : Work σ (DiffRequest × RepoPath × Side × Side) := do
  let request ← Work.ofExcept (service.named request)
  let path ← service.store.normalizePath request.path
  let (old, new) ← service.sides request path
  return (request, path, old, new)

def finish (request : DiffRequest) (path : RepoPath) (old new : Side) : Work (Desk σ) FileDiff := do
  let compute : Work (Desk σ) (List DiffLine) :=
    Desk.lift (service.compute request.mode path (request.contextLines.getD 0) old new)
  let lines ←
    if service.cached then DiffCache.getOrCompute (service.keyOf request path old new) compute
    else compute
  return ⟨path, request.mode, request.oldRef, request.newRef, old.id, new.id, lines⟩

theorem answer_named (request : Request) :
    service.answer request = Work.ofExcept (service.named request) >>= service.diff := by
  cases request with
  | file path oldRef newRef context =>
    rw [answer, fileDiff, named]
    split <;> rfl
  | complete path oldRef newRef =>
    rw [answer, completeDiff, named]
    split
    split <;> rfl

theorem answer_prepared (request : Request) :
    service.answer request = Desk.lift (service.prepare request) >>= fun prepared =>
      service.finish prepared.1 prepared.2.1 prepared.2.2.1 prepared.2.2.2 := by
  rw [answer_named, prepare, Desk.lift_bind, Desk.lift_ofExcept, bind_assoc]
  congr 1
  funext request
  rw [diff, Desk.lift_bind, bind_assoc]
  congr 1
  funext path
  rw [Desk.lift_bind, bind_assoc]
  rfl

variable {service : DiffService σ} {possible : σ → Prop} {contents : Set Bytes}
  {blob : String → RepoPath → Except Fault (Option Bytes)}

theorem sides_meets (h : service.store.Reliable possible contents blob) (request : DiffRequest)
    (path : RepoPath) :
    Meets possible (service.sides request path) fun answer x =>
      (∀ sides, answer = .ok sides → sides.1.Proper contents ∧ sides.2.Proper contents) ∧
        possible x := by
  refine (ObjectStore.resolveSide_meets h (some request.oldRef) path).bind
    (fun old => Meets.given fun hold => ?_) fun _ _ hx => ⟨fun _ h => (nomatch h), hx.2⟩
  refine (ObjectStore.resolveSide_meets h request.newRef path).bind
    (fun new => Meets.given fun hnew => ?_) fun _ _ hx => ⟨fun _ h => (nomatch h), hx.2⟩
  refine Meets.follow (R := fun _ => possible) (Meets.log fun x hx => ⟨(), rfl, hx⟩) fun _ =>
    Meets.pure fun x hx => ⟨?_, hx⟩
  rintro _ ⟨⟩
  exact ⟨hold old rfl, hnew new rfl⟩

theorem prepare_meets (h : service.store.Reliable possible contents blob) (request : Request) :
    Meets possible (service.prepare request) fun answer x =>
      (∀ prepared, answer = .ok prepared →
        prepared.2.2.1.Proper contents ∧ prepared.2.2.2.Proper contents) ∧ possible x := by
  refine Meets.bind (R := fun _ => possible) (Meets.ofExcept fun _ hx => hx) (fun named => ?_)
    fun _ _ hx => ⟨fun _ h => (nomatch h), hx⟩
  refine (ObjectStore.normalizePath_meets named.path).bind (fun path => ?_)
    fun _ _ hx => ⟨fun _ h => (nomatch h), hx⟩
  refine (sides_meets h named path).bind (fun sides => Meets.given fun hsides => ?_)
    fun _ _ hx => ⟨fun _ h => (nomatch h), hx.2⟩
  refine Meets.pure fun x hx => ⟨?_, hx⟩
  rintro _ ⟨⟩
  exact hsides sides rfl

def outcome (blob : String → RepoPath → Except Fault (Option Bytes)) (cached behind : Bool)
    (request : DiffRequest) (path : RepoPath) (old new : Side) : Except Fault FileDiff :=
  let output := produced blob request.mode path request.contextLines old new
  (if cached then DiffCache.reply id behind output else output).bind fun lines =>
    .ok ⟨path, request.mode, request.oldRef, request.newRef, old.id, new.id, lines⟩

theorem outcome_cached (behind : Bool) (request : DiffRequest) (path : RepoPath) (old new : Side) :
    outcome blob true behind request path old new =
      DiffCache.reply FileDiff.lines behind (outcome blob false behind request path old new) := by
  simp only [outcome]
  cases produced blob request.mode path request.contextLines old new with
  | error e => rfl
  | ok lines =>
    simp only [DiffCache.reply, if_true, Bool.false_eq_true, if_false, Except.bind, id]
    cases estimateSize lines <;> rfl

theorem finish_gives {world : World σ} (hstore : service.store ∈ world.stores)
    (request : DiffRequest) (path : RepoPath) {old new : Side} (hold : old.Proper world.contents)
    (hnew : new.Proper world.contents) (behind : Bool) :
    Meets (fun desk => desk.cache.inFlight.contains (service.keyOf request path old new) = behind ∧
        Desk.Sound world.possible world.Truth none desk)
      (service.finish request path old new) fun answer desk =>
        answer = outcome (world.blob service.store) service.cached behind request path old new ∧
          Desk.Sound world.possible world.Truth none desk := by
  have hreliable := world.reliable service.store hstore
  have hcompute : Gives world.possible
      (service.compute request.mode path (request.contextLines.getD 0) old new)
      (produced (world.blob service.store) request.mode path request.contextLines old new) :=
    compute_gives hreliable hold hnew
  rw [finish, outcome]
  cases service.cached with
  | true =>
    have hkept := DiffCache.getOrCompute_gives hcompute
      (world.truth_iff hstore hold hnew request path)
      (fun e => produced_uninterrupted hreliable.uninterrupted) behind
    refine hkept.bind (fun lines => ?_) fun e desk hdesk => ⟨?_, hdesk.2⟩
    · refine Meets.pure fun desk hdesk => ⟨?_, hdesk.2⟩
      rw [if_pos rfl, ← hdesk.1]
      rfl
    · rw [if_pos rfl, ← hdesk.1]
      rfl
  | false =>
    have hlifted : Gives (Desk.Sound world.possible world.Truth none) _ _ :=
      Desk.lift_meets hcompute
    exact (hlifted.bind fun lines _ => Gives.pure _).mono (fun _ hdesk => hdesk.2) fun _ _ h => h

theorem answer_sound {world : World σ} (hstore : service.store ∈ world.stores) (request : Request) :
    Meets (Desk.Sound world.possible world.Truth none) (service.answer request) fun _ desk =>
      Desk.Sound world.possible world.Truth none desk := by
  rw [answer_prepared]
  refine (Desk.lift_meets (prepare_meets (world.reliable service.store hstore) request)).bind
    (fun prepared s hs => ?_) fun _ _ hx => hx.2
  obtain ⟨hold, hnew⟩ := hs.1 prepared rfl
  exact (finish_gives hstore prepared.1 prepared.2.1 hold hnew _ s ⟨rfl, hs.2⟩).2

end DiffService

inductive Act (σ : Type) where
  | ask (service : DiffService σ) (request : Request)
  | outside (change : σ → σ)
  | advance (span : Seconds)
  | dropPath (path : Points)
  | dropAll

namespace Act

def after (s : Traced (Desk σ)) : Act σ → Traced (Desk σ)
  | .ask service request => ((service.answer request).run s).2
  | .outside change => { s with state := { s.state with outside := change s.state.outside } }
  | .advance span => ((Desk.advance span : Work (Desk σ) Unit).run s).2
  | .dropPath path => ((DiffCache.dropPath path : Work (Desk σ) Nat).run s).2
  | .dropAll => ((DiffCache.dropAll : Work (Desk σ) Nat).run s).2

def Within (world : World σ) : Act σ → Prop
  | .ask service _ => service.store ∈ world.stores
  | .outside change => ∀ x, world.possible x → world.possible (change x)
  | _ => True

theorem run_keeps {P : σ → Prop} {truth : CacheKey → List DiffLine → Prop} {acts : List (Act σ)}
    (hask : ∀ service request, .ask service request ∈ acts →
      Meets (Desk.Sound P truth none) (service.answer request) fun _ => Desk.Sound P truth none)
    (hchange : ∀ change, .outside change ∈ acts → ∀ x, P x → P (change x)) {s : Traced (Desk σ)}
    (hs : Desk.Sound P truth none s.state) :
    Desk.Sound P truth none (acts.foldl after s).state := by
  induction acts generalizing s with
  | nil => exact hs
  | cons act rest ih =>
    refine ih (fun service request hmem => hask service request (List.mem_cons_of_mem act hmem))
      (fun change hmem => hchange change (List.mem_cons_of_mem act hmem)) ?_
    cases act with
    | ask service request => exact hask service request List.mem_cons_self s hs
    | outside change =>
      exact ⟨hchange change List.mem_cons_self _ hs.outside, hs.inFlight, hs.kept⟩
    | advance span => exact Desk.advance_meets span s hs
    | dropPath path => exact DiffCache.dropPath_meets path s hs
    | dropAll => exact DiffCache.dropAll_meets s hs

theorem run_sound {world : World σ} {acts : List (Act σ)}
    (hacts : ∀ act ∈ acts, act.Within world) {s : Traced (Desk σ)}
    (hs : Desk.Sound world.possible world.Truth none s.state) :
    Desk.Sound world.possible world.Truth none (acts.foldl after s).state :=
  run_keeps (fun _ request hmem => DiffService.answer_sound (hacts _ hmem) request)
    (fun _ hmem => hacts _ hmem) hs

end Act

def DiffService.answerIn (service : DiffService σ) (cached : Bool) (request : Request)
    (s : Traced (Desk σ)) : Except Fault FileDiff :=
  (({ service with cached := cached }.answer request).run s).1

/-- A request comes to the same with the cache as without it, from the same state, as long as its
output has a size. A fault of what comes before the computation is the same one; a fault of the
computation is marked as such. -/
def DiffService.Transparent (service : DiffService σ) (request : Request) (s : Traced (Desk σ)) :
    Prop :=
  match ((service.prepare request).run ⟨s.state.outside, s.log⟩).1 with
  | .error e =>
    service.answerIn true request s = .error e ∧ service.answerIn false request s = .error e
  | .ok (named, path, old, new) =>
    service.answerIn true request s = DiffCache.reply FileDiff.lines
      (s.state.cache.inFlight.contains (service.keyOf named path old new))
      (service.answerIn false request s)

namespace DiffService

variable {service : DiffService σ} {request : Request} {s : Traced (Desk σ)}

theorem prepare_run {outcome : Except Fault (DiffRequest × RepoPath × Side × Side)}
    {next : Traced σ}
    (h : (service.prepare request).run ⟨s.state.outside, s.log⟩ = (outcome, next)) (cached : Bool) :
    (Desk.lift ({ service with cached := cached }.prepare request) : Work (Desk σ) _).run s =
      (outcome, ⟨{ s.state with outside := next.state }, next.log⟩) := by
  have hsame : ({ service with cached := cached }.prepare request).run
      ⟨s.state.outside, s.log⟩ = (outcome, next) := h
  rw [Desk.lift_run, hsame]

theorem answerIn_fault {e : Fault} {next : Traced σ}
    (h : (service.prepare request).run ⟨s.state.outside, s.log⟩ = (.error e, next))
    (cached : Bool) :
    service.answerIn cached request s = .error e := by
  rw [answerIn, answer_prepared, run_bind_error (prepare_run h cached)]

theorem answerIn_outcome {world : World σ} (hstore : service.store ∈ world.stores)
    {prepared : DiffRequest × RepoPath × Side × Side} {next : Traced σ}
    (h : (service.prepare request).run ⟨s.state.outside, s.log⟩ = (.ok prepared, next))
    (hs : Desk.Sound world.possible world.Truth none s.state) (cached : Bool) :
    service.answerIn cached request s = outcome (world.blob service.store) cached
      (s.state.cache.inFlight.contains
        (service.keyOf prepared.1 prepared.2.1 prepared.2.2.1 prepared.2.2.2))
      prepared.1 prepared.2.1 prepared.2.2.1 prepared.2.2.2 := by
  have hprepared := prepare_meets (world.reliable service.store hstore) request
    ⟨s.state.outside, s.log⟩ hs.outside
  rw [h] at hprepared
  obtain ⟨hproper, hpossible⟩ := hprepared
  obtain ⟨hold, hnew⟩ := hproper prepared rfl
  have hready : Desk.Sound world.possible world.Truth none { s.state with outside := next.state } :=
    ⟨hpossible, hs.inFlight, hs.kept⟩
  have hmem : ({ service with cached := cached } : DiffService σ).store ∈ world.stores := hstore
  have hgives := finish_gives hmem prepared.1 prepared.2.1 hold hnew _ ⟨_, next.log⟩ ⟨rfl, hready⟩
  rw [answerIn, answer_prepared, run_bind_ok (prepare_run h cached)]
  exact hgives.1

end DiffService

def MemoryRepository.world {commits : Assoc String (Assoc Points (Option Bytes))}
    {failing : Assoc Points Fault} {contents : Set Bytes}
    (hcommits : ∀ id, commits.contains id = true → Side.isWorktree id = false)
    (hfailing : ∀ name fault, failing.get? name = some fault → fault.isInterrupt = false)
    (hcontents : Set.InjOn blobId contents) (workingDir : String) : World MemoryRepository where
  possible := Holds commits failing contents
  stores := {store workingDir}
  contents := contents
  blob _ := blobIn commits failing
  reliable := by
    rintro _ rfl
    exact store_reliable hcommits hfailing workingDir
  distinct := by
    rintro _ rfl _ rfl -
    rfl
  apart := hcontents

end ReviewDiff
