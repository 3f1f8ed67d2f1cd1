import ReviewDiff.Log.Record
import ReviewDiff.Settings.Home
import ReviewDiff.Files.Tree

/-!
# The log file

The first configuration opens the log file of a home directory; a later one only changes the level.
A reset closes the file, so that the next configuration opens one again. Asking for a logger
configures the log if nothing has done so.
-/

set_option autoImplicit false

namespace ReviewDiff

structure Journal where
  configured : Bool
  level : Level
  files : List String
  deriving DecidableEq, Repr

namespace Journal

inductive Fault where
  | file (e : FileFault)
  | level (e : LevelFault)
  deriving DecidableEq, Repr

def Fault.message : Fault → String
  | .file e => e.message
  | .level e => e.message

def Fault.kind : Fault → String
  | .file e => e.obstacle.kind
  | .level e => e.kind

def start : Journal := ⟨false, .debug, []⟩

/-- Opens the log file in a home directory and sets the level; once that is done, sets the level.
The level is set before the file is opened, and after its directory is made. -/
def configure (j : Journal) (workingDir home : String) (level : Except LevelFault Level)
    (tree : FileTree) : Except Fault Unit × Journal × FileTree :=
  if j.configured then
    match level with
    | .error e => (.error (.level e), j, tree)
    | .ok level => (.ok (), { j with level := level }, tree)
  else
    match tree.makeDirsFrom workingDir (String.ofList (Path.tidy home.toList)), level with
    | .error e, _ => (.error (.file e), j, tree)
    | .ok made, .error e => (.error (.level e), j, made)
    | .ok made, .ok level =>
      let path := logPath workingDir home
      match made.append path [] with
      | .error e => (.error (.file e), { j with level := level }, made)
      | .ok opened => (.ok (), ⟨true, level, j.files ++ [path]⟩, opened)

def reset (j : Journal) : Journal := { j with configured := false, files := [] }

/-- A line of the log file. -/
def line (stamp : String) (r : LogRecord) : Points :=
  s!"{stamp} - {r.logger} - {r.level.name} - " ++ r.message ++ "\n"

def emit (j : Journal) (stamp : String) (r : LogRecord) (tree : FileTree) : FileTree :=
  match r.counts j.level, (line stamp r).encode with
  | true, .ok bytes =>
    j.files.foldl (fun tree path => (tree.append path bytes).toOption.getD tree) tree
  | _, _ => tree

def logger (j : Journal) (workingDir home name : String) (tree : FileTree) :
    Except Fault String × Journal × FileTree :=
  if j.configured then (.ok (LogRecord.loggerName name), j, tree)
  else
    let (outcome, after) := j.configure workingDir home (.ok .info) tree
    (outcome.map fun _ => LogRecord.loggerName name, after)

end Journal

end ReviewDiff
