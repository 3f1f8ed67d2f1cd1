import ReviewDiff.Settings.Decode
import ReviewDiff.Settings.Home
import ReviewDiff.Files.Tree
import ReviewDiff.Json.Writer

/-!
# Settings in a file

Loading takes the defaults when there is no file. Saving writes the document beside the file and
then renames it over the file, so that the file is either the old one or the complete new one; what
was written beside it does not stay when that fails.
-/

set_option autoImplicit false

namespace ReviewDiff.Settings

inductive Fault where
  | unreadable (e : FileFault)
  | notText (e : Utf8.Malformed)
  | malformed (path : String) (report : String)
  | tooManyDigits (report : String)
  | tooDeep (report : String)
  | notObject (path : String) (found : String)
  | invalid (e : Invalid)
  deriving DecidableEq, Repr

def Fault.message : Fault → String
  | .unreadable e => e.message
  | .notText e => e.report
  | .malformed path report => s!"Invalid JSON in config file {path}: {report}"
  | .tooManyDigits report | .tooDeep report => report
  | .notObject path found => s!"Config file {path} must hold a JSON object (found: {found})"
  | .invalid e => s!"Configuration validation error: {e.text}"

def sortName : Json → String
  | .null => "NoneType"
  | .bool _ => "bool"
  | .int _ => "int"
  | .float _ => "float"
  | .str _ => "str"
  | .arr _ => "list"
  | .obj _ => "dict"

def unifyBreaks : List Char → List Char
  | [] => []
  | '\r' :: '\n' :: rest => '\n' :: unifyBreaks rest
  | c :: rest => (if c = '\r' then '\n' else c) :: unifyBreaks rest

def ofText (path : String) (text : List Char) : Except Fault Settings :=
  match Json.read text with
  | .error e =>
    let report := e.report text
    match e with
    | .malformed .. => .error (.malformed path report)
    | .tooManyDigits _ => .error (.tooManyDigits report)
    | .tooDeep _ => .error (.tooDeep report)
  | .ok (.obj members) =>
    match ofMembers members with
    | .ok settings => .ok settings
    | .error e => .error (.invalid e)
  | .ok other => .error (.notObject path (sortName other))

def ofBytes (path : String) (bytes : Bytes) : Except Fault Settings :=
  match Utf8.decode bytes with
  | .error e => .error (.notText e)
  | .ok text => ofText path (unifyBreaks text)

/-- The settings kept in a home directory. -/
def load (tree : FileTree) (home : String) : Except Fault Settings :=
  let path := settingsPath home
  match tree.isThere path with
  | .error e => .error (.unreadable e)
  | .ok false => .ok .default
  | .ok true =>
    match tree.read path with
    | .error e => .error (.unreadable e)
    | .ok bytes => ofBytes path bytes

def fileStyle : Json.Style := ⟨some (Json.spaces 4), true⟩

def fileText (settings : Settings) : String := Json.write fileStyle settings.toJson

inductive SaveFault where
  | directory (e : FileFault)
  | document (e : FileFault)
  | tooManyDigits
  deriving DecidableEq, Repr

def SaveFault.message : SaveFault → String
  | .directory e => e.message
  | .document e => s!"Failed to save config: {e.message}"
  | .tooManyDigits => s!"Failed to save config: {Numeral.longText}"

def SaveFault.kind : SaveFault → String
  | .directory e => e.obstacle.kind
  | .document _ | .tooManyDigits => "RuntimeError"

def cleanUp (tree : FileTree) (beside : String) : FileTree :=
  match tree.remove beside with
  | .ok cleaned => cleaned
  | .error _ => tree

/-- Saves settings in a home directory: the outcome and the tree after it. -/
def save (settings : Settings) (home : String) (tree : FileTree) :
    Except SaveFault Unit × FileTree :=
  let path := settingsPath home
  let beside := path ++ ".tmp"
  match tree.makeDirs (String.ofList (Path.parent path.toList)) with
  | .error e => (.error (.directory e), tree)
  | .ok made =>
    match made.write beside (Utf8.encodeText settings.fileText) with
    | .error e => (.error (.document e), cleanUp made beside)
    | .ok written =>
      -- The file beside is open by the time a number turns out too long to be written.
      if settings.toJson.hasLong then (.error .tooManyDigits, cleanUp written beside)
      else match written.rename beside path with
        | .error e => (.error (.document e), cleanUp written beside)
        | .ok renamed => (.ok (), renamed)

end ReviewDiff.Settings
