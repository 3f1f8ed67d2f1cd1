import ReviewDiff.Display.Emoji
import ReviewDiff.Display.Handler
import ReviewDiff.Display.Strip
import ReviewDiff.Display.Style

/-!
# Marked-up text

Messages to a reader may mark a part by an opening and a closing tag in square brackets. The marks
do not show. A backslash in front of a tag makes it show as it is. A closing tag ends the latest
open part of its style, one without a style the latest of all; a closing tag that ends nothing is a
fault. A tag may have parameters behind an equals sign; those of a tag for a handler are read when
its part ends. Names of emoji stand for the emoji.
-/

set_option autoImplicit false

namespace ReviewDiff.Markup

inductive Fault where
  | nothingOpen (position : Nat)
  | notOpen (tag : String) (position : Nat)
  | handler (e : Handler.Fault)
  | colorPart (e : Numeral.Fault)
  deriving DecidableEq, Repr

def Fault.message : Fault → String
  | .nothingOpen position => s!"closing tag '[/]' at position {position} has nothing to close"
  | .notOpen tag position =>
    s!"closing tag '[{tag}]' at position {position} doesn't match any open tag"
  | .handler e => e.message
  | .colorPart e => e.message

def Fault.kind : Fault → String
  | .colorPart _ => "ValueError"
  | _ => "MarkupError"

/-- A part of a text: characters to show, or a tag with its place. -/
inductive Piece where
  | shown (cs : List Char)
  | tag (content : List Char) (position : Nat)
  deriving DecidableEq, Repr

def startsTag (c : Char) : Bool := 'a' ≤ c && c ≤ 'z' || c = '#' || c = '/' || c = '@'

def tag? : List Char → Option (List Char × List Char)
  | [] => none
  | c :: rest =>
    if startsTag c then
      match rest.span fun d => d ≠ '[' && d ≠ ']' with
      | (content, ']' :: after) => some (c :: content, after)
      | _ => none
    else none

def escapedTag? (cs : List Char) : Option (Nat × List Char × List Char) :=
  match cs.span (· = '\\') with
  | (slashes, '[' :: rest) => (tag? rest).map fun (content, after) => (slashes.length, content, after)
  | _ => none

/-- What a tag with backslashes in front of it stands for, when the first of them has a position.
Two backslashes are one; one left over makes the tag show. -/
def piecesOfTag (position slashes : Nat) (content : List Char) : List Piece :=
  let front := if slashes / 2 = 0 then [] else [.shown (List.replicate (slashes / 2) '\\')]
  front ++ [if slashes % 2 = 1 then .shown ('[' :: content ++ [']'])
    else .tag content (position + slashes / 2 * 2)]

def piecesFrom : (fuel : Nat) → (position : Nat) → (held : List Char) → List Char → List Piece
  | 0, _, held, cs => [.shown (held.reverse ++ cs)]
  | _ + 1, _, held, [] => if held.isEmpty then [] else [.shown held.reverse]
  | fuel + 1, position, held, c :: rest =>
    match escapedTag? (c :: rest) with
    | some (slashes, content, after) =>
      (if held.isEmpty then [] else [.shown held.reverse])
        ++ piecesOfTag position slashes content
        ++ piecesFrom fuel (position + slashes + content.length + 2) [] after
    | none => piecesFrom fuel (position + 1) (c :: held) rest

def pieces (cs : List Char) : List Piece := piecesFrom (cs.length + 1) 0 [] cs

def unescape : List Char → List Char
  | '\\' :: '[' :: rest => '[' :: unescape rest
  | c :: rest => c :: unescape rest
  | [] => []

def isDropped (c : Char) : Bool := [7, 8, 11, 12, 13].contains c.toNat

def visible (cs : List Char) : List Char := (Emoji.replace cs).filter fun c => !isDropped c

def splitTag (content : List Char) : List Char × Option (List Char) :=
  match content.span (· ≠ '=') with
  | (name, _ :: parameters) => (name, some parameters)
  | (name, []) => (name, none)

/-- A part of the text whose style is open: its name, its parameters and where it starts. -/
structure Opened where
  name : String
  parameters : Option (List Char)
  start : Nat

structure Rendering where
  shown : List Char
  opened : List Opened
  parts : List Part

namespace Rendering

def empty : Rendering := ⟨[], [], []⟩

def nameOf (cs : List Char) : Except Fault String :=
  (Style.nameOf (String.ofList cs)).mapError .colorPart

def isHandler (name : String) : Bool := name.toList.head? = some '@'

def colorFault? (part : Opened) : Option Numeral.Fault :=
  match part.parameters with
  | none => none
  | some parameters =>
    match Style.read (part.name ++ " " ++ String.ofList parameters) with
    | .error (.part e) => some e
    | _ => none

def keep (r : Rendering) (part : Opened) (fault : Option Numeral.Fault) : Rendering :=
  { r with parts := r.parts ++ [⟨part.start, r.shown.length, fault⟩] }

def close (r : Rendering) (part : Opened) (others : List Opened) : Except Fault Rendering :=
  let r := { r with opened := others }
  if isHandler part.name then
    match part.parameters with
    | none | some [] => .ok (r.keep part none)
    | some parameters =>
      ((Handler.check parameters).mapError .handler).map fun () => r.keep part none
  else .ok (r.keep part (colorFault? part))

def latest? (name : String) : List Opened → Option (Opened × List Opened)
  | [] => none
  | part :: rest =>
    if part.name = name then some (part, rest)
    else (latest? name rest).map fun (found, others) => (found, part :: others)

def tag (r : Rendering) (content : List Char) (position : Nat) : Except Fault Rendering := do
  let (name, parameters) := splitTag content
  match name with
  | '/' :: name =>
    if (Text.trimChars name).isEmpty then
      match r.opened with
      | [] => throw (.nothingOpen position)
      | part :: others => r.close part others
    else
      match latest? (← nameOf (Text.trimChars name)) r.opened with
      | some (part, others) => r.close part others
      | none => throw (.notOpen (String.ofList content) position)
  | name =>
    return { r with opened := ⟨← nameOf name, parameters, r.shown.length⟩ :: r.opened }

def piece (r : Rendering) : Piece → Except Fault Rendering
  | .shown cs => .ok { r with shown := r.shown ++ visible (unescape cs) }
  | .tag content position => r.tag content position

/-- All parts end where the text ends. They count in the order of their starts; of parts that start
at one place the one that ended last counts first. -/
def finish (r : Rendering) : Strip :=
  let r := r.opened.foldl (fun r part => r.keep part (colorFault? part)) { r with opened := [] }
  ⟨r.shown, r.parts.reverse.mergeSort fun a b => a.start ≤ b.start⟩

end Rendering

def render (cs : List Char) : Except Fault Strip :=
  if cs.contains '[' then
    ((pieces cs).foldlM Rendering.piece .empty).map Rendering.finish
  else .ok ⟨visible cs, []⟩

end ReviewDiff.Markup
