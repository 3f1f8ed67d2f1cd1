import ReviewDiff.Json.Shown

/-!
# Lines of diff output

A line of the output is context, with its number in both files, or added, with its number in the new
file only, or removed, with its number in the old file only, or a header, with neither.
-/

set_option autoImplicit false

namespace ReviewDiff

inductive LineKind where
  | context
  | added
  | removed
  | header
  deriving DecidableEq, Repr

namespace LineKind

def name : LineKind → String
  | .context => "context"
  | .added => "added"
  | .removed => "removed"
  | .header => "header"

def ofName? (s : String) : Option LineKind :=
  [context, added, removed, header].find? fun kind => kind.name = s

end LineKind

inductive DiffLine where
  | context (content : Points) (old new : Int)
  | added (content : Points) (new : Int)
  | removed (content : Points) (old : Int)
  | header (content : Points)
  deriving DecidableEq, Repr

namespace DiffLine

def kind : DiffLine → LineKind
  | .context .. => .context
  | .added .. => .added
  | .removed .. => .removed
  | .header .. => .header

def content : DiffLine → Points
  | .context content .. | .added content _ | .removed content _ | .header content => content

def oldNumber? : DiffLine → Option Int
  | .context _ old _ | .removed _ old => some old
  | _ => none

def newNumber? : DiffLine → Option Int
  | .context _ _ new | .added _ new => some new
  | _ => none

inductive Fault where
  | missing (part : String)
  | unknownKind (shown : String)
  | numbers (kind : LineKind) (old new : String)
  deriving DecidableEq, Repr

def Fault.message : Fault → String
  | .missing part => Text.quote part
  | .unknownKind shown => s!"{shown} is not a valid DiffLineType"
  | .numbers kind old new =>
    s!"{kind.name} line has old_line_number={old}, new_line_number={new}"

def numberJson : Option Int → Json
  | none => .null
  | some n => .int n

/-- The line with the given parts. Each kind has the numbers that belong to it and no other. -/
def ofParts (kind : LineKind) (content : Points) (old new : Option Int) : Except Fault DiffLine :=
  match kind, old, new with
  | .context, some old, some new => .ok (.context content old new)
  | .added, none, some new => .ok (.added content new)
  | .removed, some old, none => .ok (.removed content old)
  | .header, none, none => .ok (.header content)
  | kind, old, new => .error (.numbers kind (numberJson old).shown (numberJson new).shown)

/-- A line as a record at the border of the program states it. The content and the numbers may be
values of any type there; a number that is null counts as absent. -/
structure Record where
  old : Json
  new : Json
  content : Json
  kind : LineKind

namespace Record

def isNumbered (r : Record) : Bool :=
  match r.kind, r.old, r.new with
  | .context, .null, _ | .context, _, .null => false
  | .context, _, _ => true
  | .added, .null, .null => false
  | .added, .null, _ => true
  | .added, _, _ => false
  | .removed, .null, _ => false
  | .removed, _, .null => true
  | .removed, _, _ => false
  | .header, .null, .null => true
  | .header, _, _ => false

/-- The record that an object holds. The content and the kind have to be there. -/
def ofJson (j : Json) : Except Fault Record := do
  let content ← (j.member? "content").elim (throw (.missing "content")) pure
  let kind ← (j.member? "line_type").elim (throw (.missing "line_type")) fun kind =>
    match kind with
    | .str name => (LineKind.ofName? name).elim (throw (.unknownKind kind.shown)) pure
    | other => throw (.unknownKind other.shown)
  let r : Record :=
    ⟨(j.member? "old_line_number").getD .null, (j.member? "new_line_number").getD .null,
      content, kind⟩
  if r.isNumbered then return r
  throw (.numbers kind r.old.shown r.new.shown)

def toJson (r : Record) : Json :=
  .obj [("old_line_number", r.old), ("new_line_number", r.new), ("content", r.content),
    ("line_type", .str r.kind.name)]

end Record

def numberOf? : Json → Option Int
  | .int n => some n
  | _ => none

def ofRecord (r : Record) : Except Fault DiffLine :=
  ofParts r.kind r.content.asText (numberOf? r.old) (numberOf? r.new)

def toRecord (line : DiffLine) : Record :=
  ⟨numberJson line.oldNumber?, numberJson line.newNumber?, .str line.content.shown, line.kind⟩

def toJson (line : DiffLine) : Json := line.toRecord.toJson

end DiffLine

end ReviewDiff
