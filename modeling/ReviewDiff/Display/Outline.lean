import ReviewDiff.Display.Columns
import ReviewDiff.Json.Shown

/-!
# Values over several lines

A value stands in one line where it fits. A list or a map that does not fit is opened: its items
stand in lines of their own, set in by four spaces, and its closing bracket in the line behind them.
Room is kept behind an item for a comma and a space, also where none follow.
-/

set_option autoImplicit false

namespace ReviewDiff.Json

/-- Where a value stands: how far it is set in, what stands in front of it and behind it in its
line, and the columns to keep behind it. -/
structure Spot where
  indent : Nat
  front : String
  behind : String
  kept : Nat

namespace Spot

def alone : Spot := ⟨0, "", "", 0⟩

def item (outer : Spot) (front : String) (isLast : Bool) : Spot :=
  ⟨outer.indent + 4, front, if isLast then "" else ",", 2⟩

def line (s : Spot) (text : String) : String :=
  String.ofList (List.replicate s.indent ' ') ++ text

def fits (s : Spot) (width : Nat) (text : String) : Bool :=
  s.indent + Columns.ofChars (s.front ++ text).toList + s.kept ≤ width

end Spot

mutual

def outline (width : Nat) (s : Spot) : Json → List String
  | .arr (item :: rest) =>
    let text := shown (.arr (item :: rest))
    if s.fits width text then [s.line (s.front ++ text ++ s.behind)]
    else s.line (s.front ++ "[") :: outlineItems width s (item :: rest)
      ++ [s.line ("]" ++ s.behind)]
  | .obj (member :: rest) =>
    let text := shown (.obj (member :: rest))
    if s.fits width text then [s.line (s.front ++ text ++ s.behind)]
    else s.line (s.front ++ "\x7b") :: outlineMembers width s (member :: rest)
      ++ [s.line ("\x7d" ++ s.behind)]
  | j => [s.line (s.front ++ shown j ++ s.behind)]

def outlineItems (width : Nat) (s : Spot) : List Json → List String
  | [] => []
  | item :: rest => outline width (s.item "" rest.isEmpty) item ++ outlineItems width s rest

def outlineMembers (width : Nat) (s : Spot) : List (String × Json) → List String
  | [] => []
  | (name, value) :: rest =>
    outline width (s.item (Text.quote name ++ ": ") rest.isEmpty) value
      ++ outlineMembers width s rest

end

end ReviewDiff.Json
