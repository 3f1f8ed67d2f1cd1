import ReviewDiff.Diff.Hunk
import ReviewDiff.Log.Journal
import ReviewDiff.Path.RepoPath
import ReviewDiff.Settings.Stored

/-!
# Faults

Why a request has no answer. A fault has a kind, a word that callers can tell it by, and a message
for a reader. Faults of a request are reported to whoever made it. What comes from outside, such as
a failure of the operating system, is passed on as it is, and an interrupt ends everything.
-/

set_option autoImplicit false

namespace ReviewDiff

inductive Fault where
  | invalidPath (e : InvalidPath)
  | unreadable (e : Path.Unreadable)
  | refNotFound (name detail : String)
  | repository (reason : Points)
  | notText (e : Utf8.Malformed)
  | computation (cause : Fault)
  | line (e : DiffLine.Fault)
  | hunks (e : Hunk.Fault)
  | oneSided
  | settings (e : Settings.Fault)
  | home (e : HomeFault)
  | file (e : FileFault)
  | journal (e : Journal.Fault)
  | tooNested
  | unsized (e : Unencodable)
  | endless
  | foreign (kind message : String)
  | interrupt (kind message : String)
  deriving DecidableEq, Repr

namespace Fault

def valueKind : String := "ValueError"

def encodeKind : String := "UnicodeEncodeError"

def valueKinds : List String := [valueKind, "UnicodeError", "UnicodeDecodeError", encodeKind]

def tooLarge : Fault := .foreign "OverflowError" "int too large to convert to float"

def lineKind : DiffLine.Fault → String
  | .missing _ => "KeyError"
  | _ => valueKind

def hunksKind : Hunk.Fault → String
  | .negativeContext _ => valueKind
  | .position _ => "IndexError"

def unreadableKind : Path.Unreadable → String
  | .unencodable _ => encodeKind
  | .zeroByte => valueKind

def settingsKind : Settings.Fault → String
  | .unreadable e => e.obstacle.kind
  | .notText _ => "UnicodeDecodeError"
  | .tooDeep _ => "RecursionError"
  | _ => valueKind

def kind : Fault → String
  | .invalidPath _ => "InvalidPathError"
  | .unreadable e => unreadableKind e
  | .refNotFound .. => "RefNotFoundError"
  | .repository _ => "RepositoryError"
  | .notText _ => "Utf8DecodeError"
  | .unsized _ => encodeKind
  | .computation _ => "CacheComputationFailed"
  | .line e => lineKind e
  | .hunks e => hunksKind e
  | .oneSided => valueKind
  | .settings e => settingsKind e
  | .home _ | .endless => "RuntimeError"
  | .file e => e.obstacle.kind
  | .journal e => e.kind
  | .tooNested => "RecursionError"
  | .foreign kind _ | .interrupt kind _ => kind

def message : Fault → Points
  | .invalidPath e => e.message
  | .unreadable e => e.message
  | .refNotFound name detail =>
    "Ref not found: " ++ Text.quote name ++ (if detail.isEmpty then "" else s!" ({detail})")
  | .repository reason => reason
  | .notText e => s!"Content is not valid UTF-8 at byte {e.start}: {e.reason.text}"
  | .computation cause => s!"Diff computation failed: {cause.kind}: " ++ cause.message
  | .line e => e.message
  | .hunks e => e.message
  | .oneSided => "Complete diffs require both an old and a new ref"
  | .unsized e => e.message
  | .settings e => e.message
  | .home e => e.message
  | .file e => e.message
  | .journal e => e.message
  | .tooNested => "maximum recursion depth exceeded in __instancecheck__"
  | .endless => "The computation waits for itself"
  | .foreign _ message | .interrupt _ message => message

def ofRefusal : PathRefusal → Fault
  | .invalid e => .invalidPath e
  | .unreadable e => .unreadable e

def isInterrupt : Fault → Bool
  | .interrupt .. => true
  | _ => false

def isReported : Fault → Bool
  | .invalidPath _ | .unreadable _ | .refNotFound .. | .repository _ | .notText _
  | .computation _ | .oneSided | .unsized _ => true
  | .line e => lineKind e = valueKind
  | .hunks e => hunksKind e = valueKind
  | .settings (.unreadable _) | .settings (.tooDeep _) => false
  | .settings _ => true
  | .foreign kind _ => valueKinds.contains kind || kind = "DiffError"
  | .journal e => e.kind = valueKind
  | .home _ | .endless | .file _ | .tooNested | .interrupt .. => false

def interrupts : List String := ["KeyboardInterrupt", "SystemExit", "GeneratorExit", "BaseException"]

def badNameText (name : String) : String := s!"Ref '{name}' did not resolve to an object"

def badObjectText (hex : String) : String := s!"BadObject: b'{hex}'"

/-- The fault of a kind that something outside gives with a text. A missing key is shown in
quotes. -/
def ofKind (kind text : String) : Fault :=
  if kind = "RefNotFoundError" then .refNotFound text ""
  else if kind = "RepositoryError" then .repository text
  else if interrupts.contains kind then .interrupt kind text
  else if kind = "KeyError" then .foreign kind (Text.quote text)
  else if kind = "BadName" then .foreign kind (badNameText text)
  else if kind = "BadObject" then .foreign kind (badObjectText text)
  else .foreign kind text

/-- A fault as it comes out of work that is told step by step. The word for the end of a series
would end the telling, so another word stands for it. -/
def outOfSeries : Fault → Fault
  | .foreign "StopIteration" _ => .foreign "RuntimeError" "generator raised StopIteration"
  | e => e

end Fault

/-- The text of bytes that have to be UTF-8. -/
def decodeText (bytes : Bytes) : Except Fault String :=
  match Utf8.decodeText bytes with
  | .ok text => .ok text
  | .error e => .error (.notText e)

end ReviewDiff
