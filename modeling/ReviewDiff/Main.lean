import ReviewDiff.Command.Line
import ReviewDiff.Git.Record
import Std.Time.Format

/-!
# The program

Reads its surroundings, runs the command line on them, shows what that comes to and appends what was
logged to the log file. The repository is a recorded one, in the document that the environment
names; without it no directory is a repository.
-/

set_option autoImplicit false

namespace ReviewDiff.Main

def overrideVariable : String := "HYPERDIFF_HOME"
def homeVariable : String := "HOME"
def recordVariable : String := "HYPERDIFF_REPOSITORY"

def bytesAt (path : String) : IO Bytes := do
  return (← IO.FS.readBinFile path).toList

def readEnvironment : IO Environment := do
  return ⟨← IO.getEnv overrideVariable, ← IO.getEnv homeVariable, (← IO.currentDir).toString⟩

/-- The recorded repository, if there is one that can be read. -/
def readRecord (workingDir : String) : IO (Option Git.Record) := do
  match ← IO.getEnv recordVariable with
  | none => return none
  | some path =>
    let found := (Utf8.decode (← bytesAt path)).toOption.bind fun text => (Json.read text).toOption
    return found.map fun j =>
      .ofJson ((Git.Record.textOf? (j.member? "root")).getD workingDir) j

def libraryOf : Option Git.Record → Git.Library
  | some record => record.library
  | none => fun path => .error (.notRepository Git.Failure.missingKind path)

def plantPath (tree : FileTree) (path : String) : IO FileTree := do
  let place := (← IO.currentDir) / path
  if ← place.isDir then return (tree.makeDirs path).toOption.getD tree
  else if ← place.pathExists then return tree.plant path (← bytesAt path)
  else return tree

/-- The files that a run can ask for: the settings, and what the arguments name in the working tree
or in the working directory. The log file counts as empty. -/
def readTree (env : Environment) (record : Option Git.Record) (arguments : List String) :
    IO FileTree := do
  let home := env.homeDir.toOption.toList
  let roots := env.workingDir :: (record.map (·.root)).toList
  let named := arguments.flatMap fun argument =>
    roots.map fun root => String.ofList (Path.under root.toList argument.toList)
  (home ++ home.map settingsPath ++ roots ++ named).foldlM plantPath (.dir [])

def appendLog (machine : Machine) : IO Unit := do
  for path in machine.journal.files do
    IO.FS.createDirAll (String.ofList (Path.parent path.toList))
    let bytes := (machine.files.read path).toOption.getD []
    IO.FS.withFile path .append fun handle => handle.write (ByteArray.mk bytes.toArray)

def writeRecords (stamp : String) (result : CommandLine.Result) : Machine :=
  let machine := result.machine
  { machine with
    files := result.log.foldr (fun r tree => machine.journal.emit stamp r tree) machine.files }

def run (arguments : List String) : IO UInt32 := do
  let now ← Std.Time.PlainDateTime.now
  let env ← readEnvironment
  let record ← readRecord env.workingDir
  let files ← readTree env record arguments
  let result := CommandLine.run (now.format "HH:mm:ss") ⟨env, files, .start, libraryOf record⟩ arguments
  appendLog (writeRecords (now.format "uuuu-MM-dd HH:mm:ss,SSS") result)
  IO.print result.screen.output
  IO.eprint result.screen.messages
  match result.ending with
  | .exit code => return code.toUInt32
  | .fault e =>
    IO.eprintln s!"{e.kind}: {e.message.shown}"
    return 1

end ReviewDiff.Main

def main (arguments : List String) : IO UInt32 := ReviewDiff.Main.run arguments
