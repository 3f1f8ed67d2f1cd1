import ReviewDiff.Path.Lexical
import ReviewDiff.Text.Quoted
import ReviewDiff.Text.Utf8

/-!
# A tree of files

The state of a file system without links: files with their bytes and directories with their entries.
A path is followed component by component from the root, so that `..` behind a file leads nowhere.
Each operation either gives the tree after it or says what stood in its way, and then the tree is as
it was.
-/

set_option autoImplicit false

namespace ReviewDiff

inductive FileTree where
  | file (bytes : Bytes)
  | dir (entries : List (String × FileTree))
  deriving Repr, Inhabited

inductive Obstacle where
  | missing
  | exists
  | notDirectory
  | isDirectory
  | nameTooLong
  deriving DecidableEq, Repr

namespace Obstacle

def code : Obstacle → Nat
  | .missing => 2
  | .exists => 17
  | .notDirectory => 20
  | .isDirectory => 21
  | .nameTooLong => 36

def text : Obstacle → String
  | .missing => "No such file or directory"
  | .exists => "File exists"
  | .notDirectory => "Not a directory"
  | .isDirectory => "Is a directory"
  | .nameTooLong => "File name too long"

def kind : Obstacle → String
  | .missing => "FileNotFoundError"
  | .exists => "FileExistsError"
  | .notDirectory => "NotADirectoryError"
  | .isDirectory => "IsADirectoryError"
  | .nameTooLong => "OSError"

end Obstacle

/-- A file operation that failed, with the paths it was asked for. -/
structure FileFault where
  obstacle : Obstacle
  path : String
  target : Option String
  deriving DecidableEq, Repr

def FileFault.message (e : FileFault) : String :=
  let front := s!"[Errno {e.obstacle.code}] {e.obstacle.text}: {Text.quote e.path}"
  match e.target with
  | none => front
  | some target => front ++ " -> " ++ Text.quote target

namespace FileTree

def nameLimit : Nat := 255

def pathLimit : Nat := 4095

def named? (entries : List (String × FileTree)) (name : String) : Option FileTree :=
  (entries.find? fun e => e.1 = name).map (·.2)

def setEntry (entries : List (String × FileTree)) (name : String) (tree : FileTree) :
    List (String × FileTree) :=
  match entries with
  | [] => [(name, tree)]
  | e :: rest => if e.1 = name then (name, tree) :: rest else e :: setEntry rest name tree

/-- What is at the end of a way; none when nothing is. A way through a missing directory or through
a file has no end. -/
def walk : FileTree → List String → Except Obstacle (Option FileTree)
  | tree, [] => .ok (some tree)
  | .file _, _ :: _ => .error .notDirectory
  | .dir entries, name :: rest =>
    match named? entries name with
    | some next => walk next rest
    | none => if rest.isEmpty then .ok none else .error .missing

/-- The names of the place that components lead to from a place. Each component has to stand in a
directory that is there; `..` leads to the directory above. -/
def locate (tree : FileTree) :
    (place : List String) → List (Path.Component Char) → Except Obstacle (List String)
  | place, [] => .ok place
  | place, c :: rest =>
    match tree.walk place with
    | .error obstacle => .error obstacle
    | .ok none => .error .missing
    | .ok (some (.file _)) => .error .notDirectory
    | .ok (some (.dir _)) =>
      if Path.isEmptyStep c then locate tree place rest
      else if Path.isParent c then locate tree place.dropLast rest
      else if nameLimit < (String.ofList c).utf8ByteSize then .error .nameTooLong
      else locate tree (place ++ [String.ofList c]) rest

def placeOf (tree : FileTree) (path : String) : Except Obstacle (List String) :=
  if pathLimit < path.utf8ByteSize then .error .nameTooLong
  else tree.locate [] (Path.components path.toList)

def look (tree : FileTree) (path : String) : Except Obstacle (List String × Option FileTree) := do
  let place ← tree.placeOf path
  return (place, ← tree.walk place)

def replace (what : Option FileTree) : List String → FileTree → FileTree
  | [], tree => what.getD tree
  | _ :: _, .file bytes => .file bytes
  | [name], .dir entries =>
    match what with
    | some tree => .dir (setEntry entries name tree)
    | none => .dir (entries.filter fun e => !decide (e.1 = name))
  | name :: rest, .dir entries =>
    match named? entries name with
    | some next => .dir (setEntry entries name (replace what rest next))
    | none => .dir entries

/-- What stands at a path. Nothing stands where no way leads; only a name that is too long is
refused. -/
def find? (tree : FileTree) (path : String) : Except FileFault (Option FileTree) :=
  match tree.look path with
  | .ok (_, found) => .ok found
  | .error .nameTooLong => .error ⟨.nameTooLong, path, none⟩
  | .error _ => .ok none

def isThere (tree : FileTree) (path : String) : Except FileFault Bool := do
  return (← tree.find? path).isSome

def isFile (tree : FileTree) (path : String) : Except FileFault Bool := do
  match ← tree.find? path with
  | some (.file _) => return true
  | _ => return false

def read (tree : FileTree) (path : String) : Except FileFault Bytes :=
  match tree.look path with
  | .ok (_, some (.file bytes)) => .ok bytes
  | .ok (_, some (.dir _)) => .error ⟨.isDirectory, path, none⟩
  | .ok (_, none) => .error ⟨.missing, path, none⟩
  | .error obstacle => .error ⟨obstacle, path, none⟩

def write (tree : FileTree) (path : String) (bytes : Bytes) : Except FileFault FileTree :=
  match tree.look path with
  | .ok (_, some (.dir _)) => .error ⟨.isDirectory, path, none⟩
  | .ok (place, _) => .ok (tree.replace (some (.file bytes)) place)
  | .error obstacle => .error ⟨obstacle, path, none⟩

def append (tree : FileTree) (path : String) (bytes : Bytes) : Except FileFault FileTree :=
  match tree.look path with
  | .ok (place, some (.file before)) => .ok (tree.replace (some (.file (before ++ bytes))) place)
  | .ok (_, some (.dir _)) => .error ⟨.isDirectory, path, none⟩
  | .ok (place, none) => .ok (tree.replace (some (.file bytes)) place)
  | .error obstacle => .error ⟨obstacle, path, none⟩

def makeDir (tree : FileTree) (way : List (Path.Component Char)) : Except Obstacle FileTree := do
  let place ← tree.locate [] way
  match ← tree.walk place with
  | some (.dir _) => return tree
  | some (.file _) => throw .exists
  | none => return tree.replace (some (.dir [])) place

def pathText (slashes : Nat) (parts : List (Path.Component Char)) : String :=
  let body := List.replicate slashes '/' ++ Path.join parts
  String.ofList (if body.isEmpty then ['.'] else body)

/-- Makes the directory of a path, given by its components with the last one first, and before it
the directories above that are missing. The failure names the level that could not be made. -/
def makeLevels (tree : FileTree) (start : List (Path.Component Char)) (slashes : Nat) :
    List (Path.Component Char) → Except FileFault FileTree
  | [] => .ok tree
  | last :: above =>
    let parts := (last :: above).reverse
    let fault (obstacle : Obstacle) : FileFault := ⟨obstacle, pathText slashes parts, none⟩
    match tree.makeDir (start ++ parts) with
    | .ok made => .ok made
    | .error .missing => do
      let made ← makeLevels tree start slashes above
      (made.makeDir (start ++ parts)).mapError fault
    | .error obstacle => .error (fault obstacle)

/-- The tree with the directory of a path and all directories above it. A path that does not begin
at the root begins at the given directory. -/
def makeDirsFrom (tree : FileTree) (directory path : String) : Except FileFault FileTree :=
  let cs := path.toList
  if pathLimit < path.utf8ByteSize then .error ⟨.nameTooLong, path, none⟩
  else
    makeLevels tree (if Path.isAbsolute cs then [] else Path.components directory.toList)
      (Path.rootSlashes cs) ((Path.components cs).filter fun c => !Path.isEmptyStep c).reverse

def makeDirs (tree : FileTree) (path : String) : Except FileFault FileTree :=
  tree.makeDirsFrom "/" path

def rename (tree : FileTree) (source target : String) : Except FileFault FileTree :=
  match tree.look source, tree.look target with
  | .ok (old, some (.file bytes)), .ok (new, found) =>
    match found with
    | some (.dir _) => .error ⟨.isDirectory, source, some target⟩
    | _ => .ok ((tree.replace (some (.file bytes)) new).replace none old)
  | .ok (_, some (.dir _)), .ok _ => .error ⟨.notDirectory, source, some target⟩
  | .ok (_, none), _ => .error ⟨.missing, source, some target⟩
  | .error obstacle, _ => .error ⟨obstacle, source, some target⟩
  | _, .error obstacle => .error ⟨obstacle, source, some target⟩

def remove (tree : FileTree) (path : String) : Except FileFault FileTree :=
  match tree.look path with
  | .ok (place, some (.file _)) => .ok (tree.replace none place)
  | .ok (_, some (.dir _)) => .error ⟨.isDirectory, path, none⟩
  | .ok (_, none) => .error ⟨.missing, path, none⟩
  | .error obstacle => .error ⟨obstacle, path, none⟩

def list (tree : FileTree) (path : String) : List String :=
  match tree.find? path with
  | .ok (some (.dir entries)) => entries.map (·.1)
  | _ => []

mutual

def files (place : String) : FileTree → List (String × Bytes)
  | .file bytes => [(place, bytes)]
  | .dir entries => filesOf place entries

def filesOf (place : String) : List (String × FileTree) → List (String × Bytes)
  | [] => []
  | (name, tree) :: rest => files (place ++ "/" ++ name) tree ++ filesOf place rest

end

def ofDirs (paths : List String) : FileTree :=
  paths.foldl (fun tree path => (tree.makeDirs path).toOption.getD tree) (.dir [])

def plant (tree : FileTree) (path : String) (bytes : Bytes) : FileTree :=
  let made := (tree.makeDirs (String.ofList (Path.parent path.toList))).toOption.getD tree
  (made.write path bytes).toOption.getD made

end FileTree

end ReviewDiff
