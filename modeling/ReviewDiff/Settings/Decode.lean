import ReviewDiff.Settings.Basic
import ReviewDiff.Json.Reader
import ReviewDiff.Text.Blank

/-!
# Settings from a document

Every section and every member may be missing. A number may come as text and a truth value as a
number or a word. Of several mistakes the first counts: the known members of a section in their
order, then unknown ones in the order of the document; the sections likewise.
-/

set_option autoImplicit false

namespace ReviewDiff.Settings

/-- What is wrong with a member of the document. -/
inductive Problem where
  | notSection (model : String)
  | unknownMember
  | notInteger
  | fraction
  | notIntegerText
  | tooLong
  | notFinite
  | negative
  | notPositive
  | notNumber
  | notNumberText
  | notBoolean
  | notBooleanWord
  | notText
  | blankRef
  | unknownLevel
  deriving DecidableEq, Repr

def Problem.text : Problem → String
  | .notSection model => s!"Input should be a valid dictionary or instance of {model}"
  | .unknownMember => "Extra inputs are not permitted"
  | .notInteger => "Input should be a valid integer"
  | .fraction => "Input should be a valid integer, got a number with a fractional part"
  | .notIntegerText => "Input should be a valid integer, unable to parse string as an integer"
  | .tooLong => "Unable to parse input string as an integer, exceeded maximum size"
  | .notFinite => "Input should be a finite number"
  | .negative => "Input should be greater than or equal to 0"
  | .notPositive => "Input should be greater than 0"
  | .notNumber => "Input should be a valid number"
  | .notNumberText => "Input should be a valid number, unable to parse string as a number"
  | .notBoolean => "Input should be a valid boolean"
  | .notBooleanWord => "Input should be a valid boolean, unable to interpret input"
  | .notText => "Input should be a valid string"
  | .blankRef => "Value error, default_old_ref must be a non-empty ref name"
  | .unknownLevel => "Input should be 'DEBUG', 'INFO', 'WARNING' or 'ERROR'"

structure Invalid where
  place : List String
  problem : Problem
  deriving DecidableEq, Repr

def Invalid.text (e : Invalid) : String :=
  let place := String.intercalate "." e.place
  if place.isEmpty then e.problem.text else place ++ ": " ++ e.problem.text

/-- White space around a number in a text: the blanks but for the separators below the space. -/
def isMargin (c : Char) : Bool := Text.isBlank c && !(0x1C ≤ c.toNat && c.toNat ≤ 0x1F)

def trimMargin (cs : List Char) : List Char :=
  ((cs.dropWhile isMargin).reverse.dropWhile isMargin).reverse

/-- An integer as a document writes it: no plus sign, and no zero in front of other digits. Its
length is checked before what follows it. -/
def plainInteger (cs : List Char) : Except Problem Int :=
  let (minus, rest) := match cs with
    | '-' :: rest => (true, rest)
    | other => (false, other)
  let digits := rest.takeWhile Json.isDigit
  if digits.isEmpty then .error .notIntegerText
  else if digits.head? = some '0' then if rest = ['0'] then .ok 0 else .error .notIntegerText
  else if Numeral.maxDigits < digits.length then .error .tooLong
  else if rest.length ≠ digits.length then .error .notIntegerText
  else
    let size : Int := Json.digitsValue digits
    .ok (if minus then -size else size)

/-- The text behind zeros at its front, of which one is left where no digit follows. An underscore
among them goes with them. None for a text that starts no number. -/
def dropLeadingZeros : List Char → Option (List Char)
  | '0' :: rest =>
    let zeros := '0' :: rest.takeWhile fun c => c = '0' || c = '_'
    match (rest.dropWhile fun c => c = '0' || c = '_'), zeros.getLast? with
    | [], last => some last.toList
    | '.' :: tail, last => some (last.toList ++ '.' :: tail)
    | c :: tail, _ => if Json.isDigit c || c = '-' then some (c :: tail) else none
  | c :: rest => if Json.isDigit c || c = '-' then some (c :: rest) else none
  | [] => none

def dropZeroFraction (cs : List Char) : List Char :=
  match cs.span (· ≠ '.') with
  | (whole, _ :: places) => if !places.isEmpty && places.all (· = '0') then whole else cs
  | (whole, []) => whole

def underscoresFit : List Char → Bool
  | [] => true
  | ['_'] => false
  | '_' :: '_' :: _ => false
  | _ :: rest => underscoresFit rest

def dropUnderscores (cs : List Char) : Option (List Char) :=
  if cs.head? = some '_' || !underscoresFit cs then none else some (cs.filter (· ≠ '_'))

/-- The digits of a text as a plain integer has them, if they can be brought into that form. -/
def tidyDigits (cs : List Char) : Option (List Char) := do
  dropUnderscores (dropZeroFraction (← dropLeadingZeros cs))

def tidyInteger (cs : List Char) : Option (List Char) :=
  match trimMargin cs with
  | '+' :: '-' :: _ => none
  | '+' :: rest => tidyDigits rest
  | '-' :: rest => (tidyDigits rest).map fun digits => '-' :: digits
  | rest => tidyDigits rest

/-- The integer that a text stands for. Only a text that is plain as it stands is found too long. -/
def integerText (s : String) : Except Problem Int :=
  match plainInteger s.toList with
  | .error .notIntegerText =>
    match tidyInteger s.toList with
    | some cs => (plainInteger cs).mapError fun _ => .notIntegerText
    | none => .error .notIntegerText
  | read => read

def isSmall (n : Int) : Bool := -(Nat.pow 2 63 : Int) ≤ n && n < (Nat.pow 2 63 : Int)

def integerDouble (x : Binary64) : Except Problem Int :=
  if !x.isFinite then .error .notFinite
  else if !x.isInteger then .error .fraction
  else if isSmall x.truncate && x.truncate ≠ -(Nat.pow 2 63 : Int) then .ok x.truncate
  else .error .tooLong

def integer : Json → Except Problem Int
  | .int n => .ok n
  | .bool b => .ok (if b then 1 else 0)
  | .float x => integerDouble x
  | .str s => integerText s
  | _ => .error .notInteger

def natural (j : Json) : Except Problem Nat := do
  let n ← integer j
  if n < 0 then .error .negative else .ok n.toNat

theorem toNat_pos {n : Int} (h : 0 < n) : 0 < n.toNat := by omega

def positive (j : Json) : Except Problem { n : Nat // 0 < n } := do
  let n ← integer j
  if h : 0 < n then .ok ⟨n.toNat, toNat_pos h⟩ else .error .notPositive

def lowerAscii (cs : List Char) : List Char := cs.map Char.toLower

def decimalText (minus : Bool) (cs : List Char) : Option Binary64 :=
  let whole := cs.takeWhile Json.isDigit
  let rest := cs.dropWhile Json.isDigit
  let (fraction, rest) := match rest with
    | '.' :: tail => (tail.takeWhile Json.isDigit, tail.dropWhile Json.isDigit)
    | _ => ([], rest)
  if whole.isEmpty && fraction.isEmpty then none
  else
    let digits := Json.digitsValue (whole ++ fraction)
    let places : Int := fraction.length
    match rest with
    | [] => some (.ofDecimal minus digits (-places))
    | _ =>
      match Json.exponentPart? rest with
      | some (exponent, []) => some (.ofDecimal minus digits (exponent - places))
      | _ => none

def doubleText? (cs : List Char) : Option Binary64 :=
  let (minus, rest) := Numeral.splitSign cs
  let word := String.ofList (lowerAscii rest)
  if word = "inf" || word = "infinity" then some (.infinity minus)
  else if word = "nan" then some .nan
  else decimalText minus rest

/-- The double that a text stands for. White space around it is dropped where no underscores have
to be. -/
def doubleOfText (s : String) : Except Problem Binary64 :=
  let cs := trimMargin s.toList
  match doubleText? cs <|> (dropUnderscores s.toList).bind doubleText? with
  | some x => .ok x
  | none => .error .notNumberText

def double : Json → Except Problem Binary64
  | .int n =>
    let x := Binary64.ofInt n
    if x.isFinite then .ok x else .error .notNumber
  | .bool b => .ok (.ofInt (if b then 1 else 0))
  | .float x => .ok x
  | .str s => doubleOfText s
  | _ => .error .notNumber

def positiveDouble (j : Json) : Except Problem { x : Binary64 // x.isPositive = true } := do
  let x ← double j
  if h : x.isPositive = true then .ok ⟨x, h⟩ else .error .notPositive

def trueWords : List String := ["1", "on", "t", "true", "y", "yes"]
def falseWords : List String := ["0", "off", "f", "false", "n", "no"]

def booleanInteger (n : Int) : Except Problem Bool :=
  if n = 1 then .ok true else if n = 0 then .ok false else .error .notBooleanWord

def boolean : Json → Except Problem Bool
  | .bool b => .ok b
  | .int n => if isSmall n then booleanInteger n else .error .notBoolean
  | .float x =>
    match integerDouble x with
    | .ok n => booleanInteger n
    | .error _ => .error .notBoolean
  | .str s =>
    let word := String.ofList (lowerAscii s.toList)
    if trueWords.contains word then .ok true
    else if falseWords.contains word then .ok false
    else .error .notBooleanWord
  | _ => .error .notBoolean

def refName : Json → Except Problem String
  | .str s => if Text.isBlankText s then .error .blankRef else .ok (Text.trim s)
  | _ => .error .notText

def levels : List Level := [.debug, .info, .warning, .error]

def level : Json → Except Problem Level
  | .str s =>
    match levels.find? fun l => l.name = s with
    | some l => .ok l
    | none => .error .unknownLevel
  | _ => .error .unknownLevel

def member {α : Type} (members : List (String × Json)) (name : String) (missing : α)
    (decode : Json → Except Problem α) : Except Invalid α :=
  match Assoc.get? members name with
  | none => .ok missing
  | some j =>
    match decode j with
    | .ok value => .ok value
    | .error problem => .error ⟨[name], problem⟩

def onlyKnown (known : List String) (members : List (String × Json)) : Except Invalid Unit :=
  match members.find? fun m => !known.contains m.1 with
  | some m => .error ⟨[m.1], .unknownMember⟩
  | none => .ok ()

def diffSection (members : List (String × Json)) : Except Invalid DiffSettings := do
  let context ← member members "context_lines" DiffSettings.default.contextLines natural
  let ref ← member members "default_old_ref" DiffSettings.default.defaultOldRef refName
  onlyKnown ["context_lines", "default_old_ref"] members
  return ⟨context, ref⟩

def cacheSection (members : List (String × Json)) : Except Invalid CacheSettings := do
  let enabled ← member members "enabled" CacheSettings.default.enabled boolean
  let size ← member members "max_size_bytes"
    ⟨CacheSettings.default.maxSizeBytes, CacheSettings.default.budget_pos⟩ positive
  let ttl ← member members "ttl_seconds"
    ⟨CacheSettings.default.ttlSeconds, CacheSettings.default.lifetime_pos⟩ positiveDouble
  onlyKnown ["enabled", "max_size_bytes", "ttl_seconds"] members
  return ⟨enabled, size.1, ttl.1, size.2, ttl.2⟩

def logSection (members : List (String × Json)) : Except Invalid LogSettings := do
  let level ← member members "level" LogSettings.default.level level
  onlyKnown ["level"] members
  return ⟨level⟩

def section? {α : Type} (members : List (String × Json)) (name model : String) (missing : α)
    (decode : List (String × Json) → Except Invalid α) : Except Invalid α :=
  match Assoc.get? members name with
  | none => .ok missing
  | some (.obj inner) =>
    match decode inner with
    | .ok value => .ok value
    | .error e => .error ⟨name :: e.place, e.problem⟩
  | some _ => .error ⟨[name], .notSection model⟩

def ofMembers (members : List (String × Json)) : Except Invalid Settings := do
  let diff ← section? members "diff" "DiffConfig" .default diffSection
  let cache ← section? members "cache" "CacheConfig" .default cacheSection
  let log ← section? members "log" "LogConfig" .default logSection
  onlyKnown ["diff", "cache", "log"] members
  return ⟨diff, cache, log⟩

end ReviewDiff.Settings
