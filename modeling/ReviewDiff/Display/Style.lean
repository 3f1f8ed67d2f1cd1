import ReviewDiff.Data.Assoc
import ReviewDiff.Display.Color

/-!
# Styles

A style is written as words: attributes, attributes that are not to hold, a colour, a colour behind
`on` and a link. Of words that contradict each other the later one counts. Styles that show alike
have the same text.
-/

set_option autoImplicit false

namespace ReviewDiff

inductive Attribute where
  | bold
  | dim
  | italic
  | underline
  | blink
  | fastBlink
  | reverse
  | conceal
  | strike
  | doubleUnderline
  | frame
  | encircle
  | overline
  deriving DecidableEq, Repr

namespace Attribute

def all : List Attribute :=
  [.bold, .dim, .italic, .underline, .blink, .fastBlink, .reverse, .conceal, .strike,
    .doubleUnderline, .frame, .encircle, .overline]

def name : Attribute → String
  | .bold => "bold"
  | .dim => "dim"
  | .italic => "italic"
  | .underline => "underline"
  | .blink => "blink"
  | .fastBlink => "blink2"
  | .reverse => "reverse"
  | .conceal => "conceal"
  | .strike => "strike"
  | .doubleUnderline => "underline2"
  | .frame => "frame"
  | .encircle => "encircle"
  | .overline => "overline"

def short : List (String × Attribute) :=
  [("b", .bold), ("d", .dim), ("i", .italic), ("u", .underline), ("r", .reverse), ("c", .conceal),
    ("s", .strike), ("uu", .doubleUnderline), ("o", .overline)]

def ofName? (word : String) : Option Attribute :=
  (all.find? fun a => a.name = word) <|> Assoc.get? short word

end Attribute

structure Style where
  attributes : Assoc Attribute Bool
  color : Option String
  background : Option String
  link : Option String

namespace Style

/-- Why words are no style. -/
inductive Fault where
  | notStyle
  | part (e : Numeral.Fault)
  deriving DecidableEq, Repr

def plain : Style := ⟨[], none, none, none⟩

def plainName : String := "none"

def colorName (word : String) : Except Fault String :=
  match Color.read word with
  | .ok name => .ok name
  | .error .unknown => .error .notStyle
  | .error (.part e) => .error (.part e)

def extend : Style → List String → Except Fault Style
  | s, [] => .ok s
  | s, word :: rest =>
    let name := Text.lower word
    if name = "on" then
      match rest with
      | [] => .error .notStyle
      | color :: rest => do extend { s with background := some (← colorName color) } rest
    else if name = "not" then
      match rest with
      | [] => .error .notStyle
      | denied :: rest =>
        match Attribute.ofName? denied with
        | some a => extend { s with attributes := s.attributes.put a false } rest
        | none => .error .notStyle
    else if name = "link" then
      match rest with
      | [] => .error .notStyle
      | target :: rest => extend { s with link := some target } rest
    else match Attribute.ofName? name with
      | some a => extend { s with attributes := s.attributes.put a true } rest
      | none => do extend { s with color := some (← colorName name) } rest

def read (text : String) : Except Fault Style :=
  if Text.trim text = plainName then .ok plain else extend plain (Text.words text)

def words (s : Style) : List String :=
  (Attribute.all.flatMap fun a =>
    match s.attributes.get? a with
    | some true => [a.name]
    | some false => ["not", a.name]
    | none => [])
  ++ s.color.toList
  ++ (s.background.map fun color => ["on", color]).getD []
  ++ (s.link.map fun target => ["link", target]).getD []

def text (s : Style) : String :=
  if s.words.isEmpty then plainName else String.intercalate " " s.words

/-- The name that a style is compared by. Words that are no style are a name of their own. -/
def nameOf (text : String) : Except Numeral.Fault String :=
  match read text with
  | .ok s => .ok s.text
  | .error .notStyle => .ok (Text.lower (Text.trim text))
  | .error (.part e) => .error e

end Style

end ReviewDiff
