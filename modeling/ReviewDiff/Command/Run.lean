import ReviewDiff.Command.Report
import ReviewDiff.Git.Store
import ReviewDiff.Log.Journal
import ReviewDiff.Service.Compare

/-!
# Running commands

A command loads the settings, sets up the log and the cache, opens the repository and compares. A
fault that belongs to the request becomes the report's result; any other fault ends the command.
-/

set_option autoImplicit false

namespace ReviewDiff

structure Machine where
  environment : Environment
  files : FileTree
  journal : Journal
  library : Git.Library

inductive Command where
  | file (path : String) (oldRef newRef : Option String) (context : Option Int)
    (repository : Option String)
  | complete (path : String) (oldRef newRef : Option String) (repository : Option String)
  deriving DecidableEq, Repr

namespace Command

def path : Command → String
  | .file path .. | .complete path .. => path

def repository : Command → Option String
  | .file _ _ _ _ repository | .complete _ _ _ repository => repository

def missingName : String := "None"

def usualRef : String := "HEAD"

def announce : Command → String
  | .file path oldRef newRef _ _ =>
    let old := DiffService.nameOr usualRef oldRef
    s!"Diffing {path} ({old} -> {DiffService.newLabel newRef})..."
  | .complete path oldRef newRef _ =>
    s!"Rendering {path} ({oldRef.getD missingName} -> {newRef.getD missingName})..."

def activity : Command → String
  | .file .. => "Computing diff"
  | .complete .. => "Computing complete diff"

def failing : Command → String
  | .file .. => "Diff failed"
  | .complete .. => "Complete diff failed"

def ask {σ : Type} (service : DiffService σ) : Command → Work (Desk σ) FileDiff
  | .file path oldRef newRef context _ => service.fileDiff (.ofUser path) oldRef newRef context
  | .complete path oldRef newRef _ => service.completeDiff (.ofUser path) oldRef newRef

def verdict (d : FileDiff) : Command → String
  | .file .. =>
    if d.stats.identical then s!"No changes in {d.path.value.shown}"
    else s!"{d.path.value.shown}: {d.stats.hunks} hunk(s), +{d.stats.added} -{d.stats.removed}"
  | .complete .. =>
    s!"{d.path.value.shown}: {d.lines.length} line(s), +{d.stats.added} -{d.stats.removed}"

end Command

namespace Machine

structure Office where
  service : DiffService FileTree
  desk : Desk FileTree

def configure (m : Machine) : Except Fault (Settings × Machine) := do
  let home ← m.environment.homeDir.mapError .home
  let settings ← (Settings.load m.files home).mapError .settings
  let (outcome, journal, files) :=
    m.journal.configure m.environment.workingDir home (.ok settings.log.level) m.files
  outcome.mapError .journal
  return (settings, { m with journal := journal, files := files })

def openOffice (m : Machine) (settings : Settings) (repository : Option String) :
    Except Fault Office := do
  let limits ← (Limits.ofSettings settings.cache).mapError fun e =>
    .foreign Fault.valueKind e.message
  let store ← Git.Store.open m.library (repository.getD m.environment.workingDir)
  return ⟨⟨store.objects, settings.diff, settings.cache.enabled⟩, ⟨m.files, .empty limits, .whole 0⟩⟩

/-- What became of a command, and whether the repository was opened for it. -/
structure Outcome where
  opened : Bool
  answer : Except Fault FileDiff
  log : List LogRecord

/-- Runs a command up to its answer. -/
def outcome (m : Machine) (c : Command) : Outcome × Machine :=
  match m.configure with
  | .error e => (⟨false, .error e, []⟩, m)
  | .ok (settings, m) =>
    match m.openOffice settings c.repository with
    | .error e => (⟨false, .error e, []⟩, m)
    | .ok office =>
      let (answer, traced) := (c.ask office.service).run ⟨office.desk, []⟩
      (⟨true, answer, traced.log.filter fun r => r.counts m.journal.level⟩, m)

def tenths (n : Nat) (message : String) : ProgressMark :=
  ⟨.float (.ofQuotient n 10), .str message⟩

def faultDocument (path : String) (e : Fault) : Json :=
  .obj [("path", .str path), ("error", .obj [("type", .str e.kind), ("message", .str e.message.shown)])]

def report (c : Command) (o : Outcome) : Report :=
  let announce : Json := .str c.announce
  let progress := tenths 1 "Opening repository" :: if o.opened then [tenths 4 c.activity] else []
  match o.answer with
  | .ok d =>
    ⟨announce, progress ++ [tenths 10 "Complete"], .str (c.verdict d), d.toJson, true, none⟩
  | .error e =>
    if e.isReported then
      ⟨announce, progress ++ [tenths 10 "Failed"], .str s!"{c.failing}: {e.message.shown}",
        faultDocument c.path e, false, none⟩
    else ⟨announce, progress, .str "", .obj [], false, some e.outOfSeries⟩

/-- Runs a command: its report, the log records that count, the latest first, and what is left. -/
def run (m : Machine) (c : Command) : Report × List LogRecord × Machine :=
  let (o, m) := m.outcome c
  (report c o, o.log, m)

end Machine

end ReviewDiff
