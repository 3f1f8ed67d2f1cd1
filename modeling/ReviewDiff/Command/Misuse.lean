import ReviewDiff.Text.Quoted
import ReviewDiff.Text.Similar

/-!
# Misuse of the command line

What is wrong with the arguments of a program or of one of its commands, and how that is told: the
usage, where help is to be found, and the mistake.
-/

set_option autoImplicit false

namespace ReviewDiff

inductive Misuse where
  | unknownOption (name : String) (similar : List String)
  | lacksValue (option : String)
  | takesNoValue (option : String)
  | notInteger (option text : String)
  | belowZero (option : String) (found : Int)
  | lacksArgument (name : String)
  | lacksOption (option : String)
  | extraArguments (arguments : List String)
  | unknownCommand (name : String)
  deriving DecidableEq, Repr

namespace Misuse

def suggestion (similar : List String) : String :=
  match similar with
  | [] => ""
  | [only] => s!" Did you mean {only}?"
  | several =>
    let listed := String.intercalate ", " (several.mergeSort fun a b => a ≤ b)
    s!" (Possible options: {listed})"

def message : Misuse → String
  | .unknownOption name similar => s!"No such option: {name}" ++ suggestion similar
  | .lacksValue option => s!"Option {Text.quote option} requires an argument."
  | .takesNoValue option => s!"Option {Text.quote option} does not take a value."
  | .notInteger option text =>
    s!"Invalid value for {option}: {Text.quote text} is not a valid integer range."
  | .belowZero option found => s!"Invalid value for {option}: {found} is not in the range x>=0."
  | .lacksArgument name => s!"Missing argument '{name}'."
  | .lacksOption option => s!"Missing option {option}."
  | .extraArguments [only] => s!"Got unexpected extra argument ({only})"
  | .extraArguments several =>
    let listed := String.intercalate " " several
    s!"Got unexpected extra arguments ({listed})"
  | .unknownCommand name => s!"No such command {Text.quote name}."

end Misuse

/-- What follows the codes behind an escape character and its bracket, if a letter ends them. -/
def behindCodes? : List Char → Option (List Char)
  | [] => none
  | c :: rest =>
    if c.isAlpha then some rest
    else if c.isDigit || c = ';' || c = '?' then behindCodes? rest
    else none

def dropCodes : (fuel : Nat) → List Char → List Char
  | 0, cs => cs
  | fuel + 1, '\x1b' :: '[' :: rest =>
    match behindCodes? rest with
    | some after => dropCodes fuel after
    | none => '\x1b' :: dropCodes fuel ('[' :: rest)
  | fuel + 1, c :: rest => c :: dropCodes fuel rest
  | _ + 1, [] => []

def plainText (s : String) : String :=
  let cs := s.toList
  String.ofList (dropCodes (cs.length + 1) cs)

end ReviewDiff
