import ReviewDiff.Decimal.Fixed
import ReviewDiff.Display.Screen
import ReviewDiff.Fault

/-!
# Reports of commands

A command announces what it does, tells how far it is, and ends with a sentence, a document and
whether it succeeded. A report that lacks the sentence or the document is not shown to its end. The
exit code is zero only for success.
-/

set_option autoImplicit false

namespace ReviewDiff

/-- How far a command is, as a share of one. Only a number is one. -/
structure ProgressMark where
  fraction : Json
  message : Json

structure Report where
  announce : Json
  progress : List ProgressMark
  result : Json
  output : Json
  success : Bool
  raised : Option Fault

inductive Ending where
  | exit (code : Nat)
  | fault (e : Fault)

namespace Report

def incompleteResult : Fault :=
  .foreign Fault.valueKind "progress_callback must set result.result to a non-empty string"

def incompleteOutput : Fault :=
  .foreign Fault.valueKind "progress_callback must set result.output to a non-empty dict"

def unsupported (kind : String) : Fault :=
  .foreign "TypeError" s!"unsupported format string passed to {kind}.__format__"

def percent : Json → Except Fault String
  | .float x => .ok x.percent
  | .int n =>
    let x := Binary64.ofInt n
    if x.isFinite then .ok x.percent else .error .tooLarge
  | .bool b => .ok (Binary64.ofInt (if b then 1 else 0)).percent
  | .str _ => .error (.foreign Fault.valueKind "Unknown format code '%' for object of type 'str'")
  | .null => .error (unsupported "NoneType")
  | .arr _ => .error (unsupported "list")
  | .obj _ => .error (unsupported "dict")

def progressText (stamp : String) (mark : ProgressMark) : Except Fault String := do
  let share ← percent mark.fraction
  return s!"[dim]{stamp}[/dim] Progress: {mark.message.asText} ({share})"

def progressNotices (stamp : String) : List ProgressMark → List Notice × Option Fault
  | [] => ([], none)
  | mark :: rest =>
    match progressText stamp mark with
    | .error e => ([], some e)
    | .ok text =>
      let (others, fault) := progressNotices stamp rest
      (.info (.str text) :: others, fault)

def documentIndent : String := Json.spaces 2

/-- What is shown of a report, and how that ends. -/
def present (stamp : String) (format : Json) (r : Report) : List Notice × Ending :=
  let (progress, misfit) := progressNotices stamp r.progress
  let opening : List Notice := .status r.announce :: progress
  match misfit <|> r.raised.map Fault.outOfSeries with
  | some e => (opening, .fault e)
  | none =>
    if !r.result.holds then (opening, .fault incompleteResult)
    else if !r.output.holds then (opening, .fault incompleteOutput)
    else
      let verdict : Notice := if r.success then .success r.result else .error r.result (.str "")
      (opening ++ [verdict, .document r.output format (some documentIndent)],
        .exit (if r.success then 0 else 1))

end Report

end ReviewDiff
