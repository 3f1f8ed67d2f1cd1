import ReviewDiff.Proofs.Repository.Watched
import ReviewDiff.Proofs.Service.Transparency

/-!
# Watched services

A service with a watched store answers every request like the service itself and leaves the same
cache behind. So the questions of a request are those that the watched service writes down.
-/

set_option autoImplicit false

namespace ReviewDiff

open Work

variable {σ τ α : Type}

namespace Desk

variable {view : τ → σ}

/-- A desk whose outside is seen through a view. -/
def through (view : τ → σ) (desk : Desk τ) : Desk σ := ⟨view desk.outside, desk.cache, desk.now⟩

theorem lift_mirrors {t : Work τ α} {u : Work σ α} (h : Mirrors view t u) :
    Mirrors (through view) (lift t) (lift u) := by
  intro s
  have hrun := h ⟨s.state.outside, s.log⟩
  rw [lift_run, lift_run, through, hrun]
  rfl

theorem onCache_mirrors (step : Seconds → DiffCache → α × DiffCache) :
    Mirrors (through view) (onCache step) (onCache step) := fun _ => rfl

end Desk

namespace DiffCache

open Desk

variable {view : τ → σ} {t : Work (Desk τ) (List DiffLine)} {u : Work (Desk σ) (List DiffLine)}

theorem conclude_mirrors (key : CacheKey) (started : Generation)
    (outcome : Except Fault (List DiffLine)) :
    Mirrors (through view) (conclude key started outcome) (conclude key started outcome) := by
  cases outcome with
  | ok lines =>
    refine Mirrors.get_bind fun desk => (onCache_mirrors _).bind fun storing => ?_
    cases storing with
    | unsized e => exact Mirrors.fail _
    | stored | invalidated | tooLarge => exact (Mirrors.logs _).bind fun _ => onCache_mirrors _
  | error cause => exact (onCache_mirrors _).bind fun _ => Mirrors.log _

theorem share_mirrors (key : CacheKey) (h : Mirrors (through view) t u) :
    Mirrors (through view) (share key t) (share key u) := by
  refine (onCache_mirrors _).bind fun entrance => ?_
  cases entrance with
  | kept lines => exact Mirrors.pure lines
  | joined flight => exact (Mirrors.log _).bind fun _ => Mirrors.fail _
  | leads flight started =>
    exact (Mirrors.log _).bind fun _ => h.attempt.bind fun outcome =>
      (conclude_mirrors key started outcome).bind fun _ => Mirrors.ofExcept _

theorem getOrCompute_mirrors (key : CacheKey) (h : Mirrors (through view) t u) :
    Mirrors (through view) (getOrCompute key t) (getOrCompute key u) := by
  refine (onCache_mirrors _).bind fun found => ?_
  cases found with
  | some lines => exact Mirrors.pure lines
  | none => exact share_mirrors key h

end DiffCache

namespace DiffService

variable (service : DiffService σ)

def watched : DiffService (Watched σ) :=
  ⟨service.store.watched, service.settings, service.cached⟩

theorem sides_mirrors (request : DiffRequest) (path : RepoPath) :
    Mirrors Watched.state (service.watched.sides request path) (service.sides request path) :=
  (ObjectStore.resolveSide_mirrors _ _ _).bind fun _ =>
    (ObjectStore.resolveSide_mirrors _ _ _).bind fun _ =>
      (Mirrors.log _).bind fun _ => Mirrors.pure _

theorem prepare_mirrors (request : Request) :
    Mirrors Watched.state (service.watched.prepare request) (service.prepare request) :=
  (Mirrors.ofExcept _).bind fun named =>
    (ObjectStore.normalizePath_mirrors _ _).bind fun path =>
      (service.sides_mirrors named path).bind fun _ => Mirrors.pure _

theorem compare_mirrors (mode : DiffMode) (path : RepoPath) (context : Int) (old new : Content) :
    Mirrors (Watched.state (σ := σ)) (compare mode path context old new)
      (compare mode path context old new) := by
  rw [compare, compare]
  split
  · exact Mirrors.pure _
  · exact (Mirrors.ofExcept _).bind fun lines => (Mirrors.log _).bind fun _ => Mirrors.pure _

theorem compute_mirrors (mode : DiffMode) (path : RepoPath) (context : Int) (old new : Side) :
    Mirrors Watched.state (service.watched.compute mode path context old new)
      (service.compute mode path context old new) :=
  (ObjectStore.contentOf_mirrors _ _ _).bind fun oldContent =>
    (ObjectStore.contentOf_mirrors _ _ _).bind fun newContent =>
      compare_mirrors mode path context oldContent newContent

theorem finish_mirrors (request : DiffRequest) (path : RepoPath) (old new : Side) :
    Mirrors (Desk.through Watched.state) (service.watched.finish request path old new)
      (service.finish request path old new) := by
  have hcompute := Desk.lift_mirrors
    (service.compute_mirrors request.mode path (request.contextLines.getD 0) old new)
  have hcached : service.watched.cached = service.cached := rfl
  rw [finish, finish, hcached]
  split
  · exact (DiffCache.getOrCompute_mirrors _ hcompute).bind fun lines => Mirrors.pure _
  · exact hcompute.bind fun lines => Mirrors.pure _

theorem answer_mirrors (request : Request) :
    Mirrors (Desk.through Watched.state) (service.watched.answer request)
      (service.answer request) := by
  rw [answer_prepared, answer_prepared]
  exact (Desk.lift_mirrors (service.prepare_mirrors request)).bind fun prepared =>
    service.finish_mirrors prepared.1 prepared.2.1 prepared.2.2.1 prepared.2.2.2

/-- The questions that a request puts to the store. -/
def asks (request : Request) (s : Traced (Desk σ)) : List Asked :=
  ((service.watched.answer request).run
    ⟨⟨⟨s.state.outside, []⟩, s.state.cache, s.state.now⟩, s.log⟩).2.state.outside.asked

end DiffService

end ReviewDiff
