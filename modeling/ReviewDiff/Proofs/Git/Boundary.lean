import ReviewDiff.Git.Record
import ReviewDiff.Git.Store
import ReviewDiff.Proofs.Work

/-!
# The store as a boundary of its library

Whoever opens a store and asks it for commits and for files is to meet two faults only: a ref that
was not found and a fault of the repository. An open store keeps to that, whatever its library
reports. Opening one does not: besides a missing repository every failure of the library comes
through as it is.

A repository may change between two questions, so each question comes with the repository as it is
met then.
-/

set_option autoImplicit false

namespace ReviewDiff

def Fault.isOfStore : Fault → Bool
  | .refNotFound .. | .repository _ => true
  | _ => false

namespace Git

/-- Whether a failure is one of the library's own, and not of what lies beneath it. -/
def Failure.isOwn : Failure → Bool
  | .foreign .. => false
  | _ => true

def Failure.isMissing : Failure → Bool
  | .notRepository .. | .noSuchPath _ => true
  | _ => false

structure Repository.FailsAsOwn (r : Repository) : Prop where
  commit : ∀ name e, r.commit name = .error e → e.isOwn = true
  entry : ∀ id path e, r.entry id path = .error e → e.isOwn = true
  content : ∀ id path e, r.entry id path = .ok (some (.file (.error e))) → e.isOwn = true

theorem Record.commit_isOwn (r : Record) (hrefs : ∀ x ∈ r.refFailures, x.2.isOwn = true)
    (name : String) (e : Failure) (h : r.commit name = .error e) : e.isOwn = true := by
  rw [commit] at h
  split at h
  next e' hfound =>
    cases h
    exact hrefs (name, e) (Assoc.mem_of_get? hfound)
  next =>
    dsimp only at h
    split at h <;> cases h
    rfl

theorem Record.content_isOwn (r : Record) (hblobs : ∀ x ∈ r.blobFailures, x.2.isOwn = true)
    (id : String) (path : Points) (e : Failure) (h : r.entry id path = .ok (some (.file (.error e)))) :
    e.isOwn = true := by
  simp only [entry, Except.ok.injEq] at h
  split at h
  · cases hfound : r.blobFailures.get? path with
    | some e' =>
      rw [hfound] at h
      cases h
      exact hblobs (path, e) (Assoc.mem_of_get? hfound)
    | none =>
      rw [hfound] at h
      cases h
  · cases h
  · split at h <;> cases h

theorem Record.failsAsOwn {r : Record} {path : String} {repository : Repository}
    (hrefs : ∀ x ∈ r.refFailures, x.2.isOwn = true)
    (hblobs : ∀ x ∈ r.blobFailures, x.2.isOwn = true)
    (hopen : r.library path = .ok repository) : repository.FailsAsOwn := by
  rw [library] at hopen
  split at hopen
  · cases hopen
  · split at hopen
    · cases hopen
      refine ⟨r.commit_isOwn hrefs, ?_, r.content_isOwn hblobs⟩
      intro id path e h
      cases h
    · cases hopen

inductive Question where
  | ref (name : String)
  | blob (id : String) (path : RepoPath)

inductive Reply where
  | opened
  | id (id : String)
  | content (bytes : Option Bytes)
  deriving DecidableEq

structure Visit where
  repository : Repository
  question : Question

def Within {α : Type} (outcome : Except Fault α) : Prop :=
  ∀ fault, outcome = .error fault → fault.isOfStore = true

namespace Store

variable {σ α β : Type} {library : Library} {path : String} {store : Store} {visits : List Visit}

def reply (store : Store) : Question → Work σ Reply
  | .ref name => do return .id (← store.resolveRef name)
  | .blob id path => do return .content (← store.readBlob id path)

def replies (store : Store) : List Visit → Traced σ → List (Except Fault Reply)
  | [], _ => []
  | visit :: rest, s =>
    let (outcome, next) := ({ store with repository := visit.repository }.reply visit.question).run s
    outcome :: store.replies rest next

/-- The outcome of opening a store and, if it opens, those of questions to it. -/
def session (library : Library) (path : String) (visits : List Visit) (s : Traced σ) :
    List (Except Fault Reply) :=
  match Store.open library path with
  | .ok store => .ok .opened :: store.replies visits s
  | .error fault => [.error fault]

def StaysWithin (t : Work σ α) : Prop := Work.Meets (fun _ => True) t fun outcome _ => Within outcome

theorem within_ok (a : α) : Within (.ok a) := by
  intro fault h
  cases h

theorem StaysWithin.bind {t : Work σ α} {f : α → Work σ β} (ht : StaysWithin t)
    (hf : ∀ a, StaysWithin (f a)) : StaysWithin (t >>= f) := by
  refine Work.Meets.bind ht (fun a s _ => hf a s trivial) ?_
  intro fault _ h fault' heq
  cases heq
  exact h fault rfl

theorem StaysWithin.pure (a : α) : StaysWithin (Pure.pure a : Work σ α) :=
  Work.Meets.pure fun _ _ => within_ok a

theorem StaysWithin.ofExcept {outcome : Except Fault α} (h : Within outcome) :
    StaysWithin (Work.ofExcept outcome : Work σ α) := Work.Meets.ofExcept fun _ _ => h

theorem StaysWithin.log (r : LogRecord) : StaysWithin (Work.log r : Work σ Unit) :=
  Work.Meets.log fun _ _ => within_ok ()

theorem StaysWithin.fail {fault : Fault} (h : fault.isOfStore = true) :
    StaysWithin (Work.fail fault : Work σ α) := by
  apply Work.Meets.fail
  intro _ _ fault' heq
  cases heq
  exact h

theorem refFault_isOfStore (name : String) {e : Failure} (h : e.isOwn = true) :
    (refFault name e).isOfStore = true := by
  cases e <;> first | rfl | cases h

theorem readFault_isOfStore (id : String) (path : RepoPath) {e : Failure} (h : e.isOwn = true) :
    (readFault id path e).isOfStore = true := by
  cases e <;> first | rfl | cases h

theorem resolveRef_within (hown : store.repository.FailsAsOwn) (name : String) :
    StaysWithin (store.resolveRef name : Work σ String) := by
  rw [resolveRef]
  split
  · exact StaysWithin.fail rfl
  · cases hcommit : store.repository.commit name with
    | error e => exact StaysWithin.fail (refFault_isOfStore name (hown.commit name e hcommit))
    | ok id => exact (StaysWithin.log _).bind fun _ => StaysWithin.pure id

theorem blob?_isOwn {id : String} {path : RepoPath} {e : Failure}
    (hown : store.repository.FailsAsOwn) (h : store.blob? id path = .error e) :
    e.isOwn = true := by
  rw [blob?] at h
  cases hcommit : store.repository.commit id with
  | error e' =>
    rw [hcommit] at h
    cases h
    exact hown.commit id e hcommit
  | ok commit =>
    rw [hcommit] at h
    change (store.repository.entry commit path.value >>= _) = _ at h
    cases hentry : store.repository.entry commit path.value with
    | error e' =>
      rw [hentry] at h
      cases h
      exact hown.entry commit path.value e hentry
    | ok found =>
      rw [hentry] at h
      match found with
      | some (.file (.error e')) =>
        cases h
        exact hown.content commit path.value e hentry
      | some (.file (.ok _)) | some .directory | some .submodule | none => cases h

theorem readBlob_within (hown : store.repository.FailsAsOwn) (id : String) (path : RepoPath) :
    StaysWithin (store.readBlob id path : Work σ (Option Bytes)) := by
  apply StaysWithin.ofExcept
  intro fault h
  cases hread : store.blob? id path with
  | ok bytes =>
    rw [hread] at h
    cases h
  | error e =>
    rw [hread] at h
    cases h
    exact readFault_isOfStore id path (blob?_isOwn hown hread)

theorem reply_within (hown : store.repository.FailsAsOwn) (question : Question) :
    StaysWithin (store.reply question : Work σ Reply) := by
  cases question with
  | ref name => exact (resolveRef_within hown name).bind fun _ => StaysWithin.pure _
  | blob id path => exact (readBlob_within hown id path).bind fun _ => StaysWithin.pure _

theorem replies_within (store : Store) (hown : ∀ visit ∈ visits, visit.repository.FailsAsOwn)
    (s : Traced σ) : ∀ outcome ∈ store.replies visits s, Within outcome := by
  induction visits generalizing s with
  | nil =>
    intro outcome h
    cases h
  | cons visit rest ih =>
    intro outcome h
    obtain rfl | h := List.mem_cons.mp h
    · have hreply : StaysWithin ({ store with repository := visit.repository }.reply visit.question :
          Work σ Reply) := reply_within (hown visit List.mem_cons_self) visit.question
      exact hreply s trivial
    · exact ih (fun v hv => hown v (List.mem_cons_of_mem visit hv)) _ outcome h

theorem open_within (hown : ∀ e, library path = .error e → e.isOwn = true) :
    Within (Store.open library path) ↔ ∀ e, library path = .error e → e.isMissing = true := by
  rw [Store.open]
  cases hlibrary : library path with
  | ok repository =>
    cases hdir : repository.workingDir <;> simp [Within, hdir, Fault.isOfStore]
  | error e =>
    have := hown e hlibrary
    cases e <;> simp_all [Within, Failure.pass, Failure.isOwn, Failure.isMissing, Fault.isOfStore]

end Store

end Git

end ReviewDiff
