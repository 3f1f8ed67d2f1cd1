import ReviewDiff.Display.Highlight
import ReviewDiff.Display.Markup
import ReviewDiff.Display.Outline
import ReviewDiff.Display.Wrap
import ReviewDiff.Fault
import ReviewDiff.Json.Writer
import ReviewDiff.Yaml.Writer

/-!
# The screen

Messages about the progress of work go to one stream, with the time of day in front, and the
document that results goes to another. A document is written in blocks, or as JSON for any other
format.
-/

set_option autoImplicit false

namespace ReviewDiff

/-- Something to show. A message is a text as a rule, but any value can be shown. -/
inductive Notice where
  | status (message : Json)
  | info (message : Json)
  | success (message : Json)
  | error (message details : Json)
  | document (data format : Json) (indent : Option String)

structure Screen where
  output : String
  messages : String
  deriving DecidableEq, Repr

namespace Screen

def empty : Screen := ⟨"", ""⟩

def width : Nat := 2000

def hasPictures (cs : List Char) : Bool := cs.any fun c => c = Columns.joiner || c = Columns.selector

def markupFault (e : Markup.Fault) : Fault := .foreign e.kind e.message

def highlighted (s : Strip) : Strip :=
  if hasPictures s.chars then { s with parts := (Highlight.parts s.chars).map .sound ++ s.parts }
  else s

def set (s : Strip) : Except Fault String :=
  let lines := Wrap.lines width (highlighted s)
  match lines.findSome? fun line => line.parts.findSome? (·.fault) with
  | some e => .error (markupFault (.colorPart e))
  | none => .ok (String.ofList (lines.flatMap fun line => Wrap.shown width line ++ ['\n']))

/-- A marked-up text as it shows. -/
def line (markup : String) : Except Fault String := do
  set (← (Markup.render markup.toList).mapError markupFault)

def say (markup : String) (s : Screen) : Except Fault Screen :=
  (line markup).map fun text => { s with messages := s.messages ++ text }

def blockFormat : String := "yaml"

def isBlocks : Json → Bool
  | .str format => format = blockFormat
  | _ => false

def maxDepth : Nat := 329

def documentText (data format : Json) (indent : Option String) : Except Fault String :=
  if !isBlocks format then .ok (Json.write ⟨indent, false⟩ data ++ "\n")
  else if maxDepth < data.depth then .error .tooNested
  else .ok (Yaml.document data)

def stamped (stamp sign : String) (message : Json) : String :=
  s!"[dim]{stamp}[/dim] {sign} {message.asText}"

/-- The screen after a notice at a time of day. Nothing is marked up in a value that is no text and
stands alone. -/
def display (stamp : String) (s : Screen) : Notice → Except Fault Screen
  | .status message => s.say (stamped stamp "[blue]i[/blue]" message)
  | .info (.str message) => s.say message
  | .info value =>
    let lines := Json.outline width .alone value
    (set ⟨(String.intercalate "\n" lines).toList, []⟩).map fun text =>
      { s with messages := s.messages ++ text }
  | .success message => s.say (stamped stamp "[green]✓[/green]" message)
  | .error message details => do
    let s ← s.say (stamped stamp "[red]✗[/red]" message)
    if details.holds then s.say s!"  [dim]{details.asText}[/dim]" else return s
  | .document data format indent =>
    (documentText data format indent).map fun text => { s with output := s.output ++ text }

def displayAll (stamp : String) : Screen → List Notice → Screen × Option Fault
  | s, [] => (s, none)
  | s, n :: rest =>
    match s.display stamp n with
    | .ok next => displayAll stamp next rest
    | .error e => (s, some e)

end Screen

end ReviewDiff
