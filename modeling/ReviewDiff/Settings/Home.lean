import ReviewDiff.Path.Lexical

/-!
# The home directory

Settings and log live in one directory: the one that the environment names, made absolute, or a
hidden directory in the user's home. A leading `~` stands for the user's home; no other user is
known by name.
-/

set_option autoImplicit false

namespace ReviewDiff

/-- What the program sees of its surroundings. -/
structure Environment where
  override : Option String
  userHome : Option String
  workingDir : String
  deriving DecidableEq, Repr

inductive HomeFault where
  | unknown
  deriving DecidableEq, Repr

def HomeFault.message : HomeFault → String
  | .unknown => "Could not determine home directory."

namespace Environment

def userHomePath (env : Environment) : Except HomeFault (List Char) :=
  match env.userHome with
  | none => .error .unknown
  | some home =>
    let trimmed := Path.trimEnd home.toList
    if trimmed.head? = some '~' then .error .unknown
    else .ok (if trimmed.isEmpty then ['/'] else trimmed)

def expand (env : Environment) (path : List Char) : Except HomeFault (List Char) :=
  let tidy := Path.tidy path
  match Path.components tidy with
  | ['~'] :: rest => do
    let home ← env.userHomePath
    return Path.under home (Path.join rest)
  | ('~' :: _) :: _ => .error .unknown
  | _ => .ok tidy

def homeDir (env : Environment) : Except HomeFault String :=
  match env.override with
  | some named =>
    if named.isEmpty then fallback
    else do
      let path ← env.expand named.toList
      return String.ofList (Path.absolute (Path.under env.workingDir.toList path))
  | none => fallback
where
  fallback : Except HomeFault String := do
    let home ← env.userHomePath
    return String.ofList (Path.child home ".hyperdiff".toList)

end Environment

def settingsPath (home : String) : String :=
  String.ofList (Path.child home.toList "config.json".toList)

def logPath (workingDir home : String) : String :=
  String.ofList (Path.normalize
    (Path.under workingDir.toList (Path.child home.toList "hyperdiff.log".toList)))

end ReviewDiff
