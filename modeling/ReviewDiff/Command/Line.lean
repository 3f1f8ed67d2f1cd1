import ReviewDiff.Command.Arguments

/-!
# The command line

Runs the program on its arguments: what it shows, how it ends and what it leaves behind. A wrong
usage ends with code two, an unknown format with code one.
-/

set_option autoImplicit false

namespace ReviewDiff

namespace CommandLine

def version : String := "hdiff 0.1.0"

def isVersionRequest (arguments : List String) : Bool :=
  arguments.contains "--version" || arguments.contains "-V"

def formats : List String := ["json", Screen.blockFormat]

def formatIn? (context : Json) : Option String :=
  match context.member? "display_format" with
  | some (.str format) => if formats.contains format then some format else none
  | _ => none

def formatOf (contexts : List Json) : String :=
  (contexts.reverse.findSome? formatIn?).getD Screen.blockFormat

def unknownFormat (format : String) : String :=
  plainText s!"Error: --display must be 'json' or 'yaml', got '{format}'\n"

structure Result where
  screen : Screen
  ending : Ending
  machine : Machine
  log : List LogRecord

def quiet (machine : Machine) (screen : Screen) (code : Nat) : Result :=
  ⟨screen, .exit code, machine, []⟩

def programName : String := "hdiff"

def usage (command : Option String) : String :=
  match command with
  | none => s!"Usage: {programName} [OPTIONS] COMMAND [ARGS]..."
  | some name => s!"Usage: {programName} {name} [OPTIONS] {Arguments.pathArgument}"

def callOf (command : Option String) : String :=
  programName ++ (command.map (" " ++ ·)).getD ""

def misuseText (command : Option String) (e : Misuse) : String :=
  plainText (usage command ++ s!"\nTry '{callOf command} --help' for help.\n\n"
    ++ s!"Error: {e.message}\n")

def misused (machine : Machine) (command : Option String) (e : Misuse) : Result :=
  quiet machine ⟨"", misuseText command e⟩ 2

def helped (machine : Machine) (command : Option String) : Result :=
  quiet machine ⟨usage command ++ "\n", ""⟩ 0

/-- How a run ends: an interrupt from the keyboard by a code of its own, a fault that asks for the
end of the program by another, and one about the end of the input with an empty line. -/
def settle (screen : Screen) (ending : Ending) : Screen × Ending :=
  match ending with
  | .fault (.interrupt "KeyboardInterrupt" _) => (screen, .exit 130)
  | .fault (.interrupt "SystemExit" _) => (screen, .exit 1)
  | .fault (.foreign "EOFError" _) => ({ screen with messages := screen.messages ++ "\n" }, .exit 1)
  | other => (screen, other)

def showReport (stamp format : String) (machine : Machine) (c : Command) : Result :=
  let (report, log, machine) := machine.run c
  let (notices, ending) := report.present stamp (.str format)
  let (screen, fault) := Screen.empty.displayAll stamp notices
  let (screen, ending) := settle screen ((fault.map Ending.fault).getD ending)
  ⟨screen, ending, machine, log⟩

def askedOf? (workingDir : String) (name : String) (arguments : List String) :
    Option (Except Misuse Arguments.Asking) :=
  if name = "file" then some (Arguments.fileCommand workingDir arguments)
  else if name = "complete" then some (Arguments.completeCommand workingDir arguments)
  else none

/-- A run without a known command. Where its name looks like an option, it is read as one. -/
def unknown (machine : Machine) (name : String) (rest : List String) : Result :=
  match Arguments.parse Arguments.programFlags false .empty (name :: rest) with
  | .error e => misused machine none e
  | .ok p => if p.help then helped machine none else misused machine none (.unknownCommand name)

/-- Runs the program at a time of day. -/
def run (stamp : String) (machine : Machine) (arguments : List String) : Result :=
  if isVersionRequest arguments then quiet machine ⟨version ++ "\n", ""⟩ 0
  else match Arguments.parse Arguments.programFlags false .empty arguments with
    | .error e => misused machine none e
    | .ok p =>
      if p.help then helped machine none
      else
        let format := (p.value? .display).getD Screen.blockFormat
        let misfit : Result := quiet machine ⟨"", unknownFormat format⟩ 1
        match p.others with
        | [] => if formats.contains format then helped machine none else misfit
        | name :: rest =>
          match askedOf? machine.environment.workingDir name rest with
          | none => unknown machine name rest
          | some asking =>
            if !formats.contains format then misfit
            else match asking with
              | .error e => misused machine (some name) e
              | .ok .help => helped machine (some name)
              | .ok (.run c) => showReport stamp format machine c

end CommandLine

end ReviewDiff
