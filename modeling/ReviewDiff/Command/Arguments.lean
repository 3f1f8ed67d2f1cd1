import ReviewDiff.Command.Misuse
import ReviewDiff.Command.Run
import ReviewDiff.Decimal.Numeral

/-!
# Arguments of the command line

Options may be written `--name value`, `--name=value`, `-n value` or `-nvalue`, before and behind the
other arguments; `--` ends them. An option that is given twice counts as given last. Options that
stand before the name of the command belong to the program.
-/

set_option autoImplicit false

namespace ReviewDiff.Arguments

/-- An option with its long name and its letter. Help takes no value. -/
inductive Flag where
  | display
  | old
  | new
  | contextLines
  | repository
  | help
  deriving DecidableEq, Repr

namespace Flag

def longName : Flag → String
  | .display => "--display"
  | .old => "--old"
  | .new => "--new"
  | .contextLines => "--context-lines"
  | .repository => "--repo"
  | .help => "--help"

def letter : Flag → Char
  | .display => 'd'
  | .old => 'o'
  | .new => 'n'
  | .contextLines => 'U'
  | .repository => 'r'
  | .help => 'h'

end Flag

def programFlags : List Flag := [.display, .help]

def fileFlags : List Flag := [.old, .new, .contextLines, .repository, .help]

def completeFlags : List Flag := [.old, .new, .repository, .help]

/-- What was read: options with their values in the order given, and the other arguments. -/
structure Parsed where
  help : Bool
  values : List (Flag × String)
  others : List String
  deriving DecidableEq, Repr

namespace Parsed

def empty : Parsed := ⟨false, [], []⟩

def value? (p : Parsed) (flag : Flag) : Option String :=
  (p.values.reverse.find? fun v => v.1 = flag).map (·.2)

end Parsed

def Flag.label (flag : Flag) : String := s!"'{flag.longName}' / '-{flag.letter}'"

inductive Asked where
  | help
  | value (flag : Flag) (value : String)
  | awaits (flag : Flag) (option : String)
  | mistaken (e : Misuse)
  deriving DecidableEq, Repr

def askedLetters (flags : List Flag) : List Char → Bool × Asked
  | [] => (false, .help)
  | c :: rest =>
    let option := String.ofList ['-', c]
    match flags.find? fun flag => flag.letter = c with
    | none => (false, .mistaken (.unknownOption option []))
    | some .help =>
      if rest.isEmpty then (true, .help)
      else let (_, asked) := askedLetters flags rest; (true, asked)
    | some flag =>
      (false, if rest.isEmpty then .awaits flag option else .value flag (String.ofList rest))

def shellOptions : List String := ["--install-completion", "--show-completion"]

def longNames (flags : List Flag) : List String :=
  flags.map (·.longName) ++ (if flags.contains .display then shellOptions else [])

def asked (flags : List Flag) (argument : String) : Bool × Asked :=
  let cs := argument.toList
  let (name, behind) := cs.span (· ≠ '=')
  let option := String.ofList name
  match flags.find? fun flag => flag.longName = option, behind with
  | some .help, [] => (true, .help)
  | some .help, _ => (false, .mistaken (.takesNoValue option))
  | some flag, [] => (false, .awaits flag option)
  | some flag, _ :: value => (false, .value flag (String.ofList value))
  | none, _ =>
    if ['-', '-'].isPrefixOf cs then
      (false, .mistaken (.unknownOption option (Text.similar option (longNames flags))))
    else askedLetters flags (cs.drop 1)

def isOption (argument : String) : Bool :=
  match argument.toList with
  | '-' :: _ :: _ => true
  | _ => false

def parse (flags : List Flag) (mixed : Bool) : Parsed → List String → Except Misuse Parsed
  | p, [] => .ok p
  | p, argument :: rest =>
    if argument = "--" then .ok { p with others := p.others ++ rest }
    else if isOption argument then
      match asked flags argument, rest with
      | (help, .help), rest => parse flags mixed { p with help := p.help || help } rest
      | (help, .value flag value), rest =>
        parse flags mixed { p with help := p.help || help, values := p.values ++ [(flag, value)] } rest
      | (help, .awaits flag _), value :: rest =>
        parse flags mixed { p with help := p.help || help, values := p.values ++ [(flag, value)] } rest
      | (_, .awaits _ option), [] => .error (.lacksValue option)
      | (_, .mistaken e), _ => .error e
    else if mixed then parse flags mixed { p with others := p.others ++ [argument] } rest
    else .ok { p with others := p.others ++ argument :: rest }

/-- The context that an option asks for: missing, or an integer from zero on. -/
def context : Option String → Except Misuse (Option Int)
  | none => .ok none
  | some s =>
    match Numeral.read s with
    | .ok n => if n < 0 then .error (.belowZero Flag.contextLines.label n) else .ok (some n)
    | .error _ => .error (.notInteger Flag.contextLines.label s)

def pathArgument : String := "PATH"

def splitPath : List String → Except Misuse (String × List String)
  | path :: extra => .ok (path, extra)
  | [] => .error (.lacksArgument pathArgument)

def noExtra : List String → Except Misuse Unit
  | [] => .ok ()
  | extra => .error (.extraArguments extra)

def needed (p : Parsed) (flag : Flag) : Except Misuse String :=
  match p.value? flag with
  | some value => .ok value
  | none => .error (.lacksOption flag.label)

/-- The path of a command. Without a repository a relative path is seen from the working
directory. -/
def pathFrom (workingDir path : String) (repository : Option String) : String :=
  if repository.isNone && !Path.isAbsolute path.toList then
    String.ofList (Path.under workingDir.toList path.toList)
  else path

inductive Asking where
  | run (c : Command)
  | help

def fileCommand (workingDir : String) (arguments : List String) : Except Misuse Asking := do
  let p ← parse fileFlags true .empty arguments
  if p.help then return .help
  else
    let context ← context (p.value? .contextLines)
    let (path, extra) ← splitPath p.others
    noExtra extra
    let repository := p.value? .repository
    return .run (.file (pathFrom workingDir path repository) (p.value? .old) (p.value? .new) context
      repository)

def completeCommand (workingDir : String) (arguments : List String) : Except Misuse Asking := do
  let p ← parse completeFlags true .empty arguments
  if p.help then return .help
  else
    let (path, extra) ← splitPath p.others
    let old ← needed p .old
    let new ← needed p .new
    noExtra extra
    let repository := p.value? .repository
    return .run (.complete (pathFrom workingDir path repository) (some old) (some new) repository)

end ReviewDiff.Arguments
