import ReviewDiff.Data.Assoc
import ReviewDiff.Text.Quoted

/-!
# Log records

A record has the name of the logger it came through, a level and a message. Loggers of one program
have names below one root, and a record counts when its level is at least the root's level. A level
is chosen by its name; a name that stands for nothing chooses the level for information.
-/

set_option autoImplicit false

namespace ReviewDiff

inductive Level where
  | notSet
  | lowest
  | debug
  | info
  | warning
  | error
  | critical
  deriving DecidableEq, Repr

/-- What a name stands for that chooses no level. -/
inductive LevelFault where
  | unknown (text : String)
  | thing (shown : String)
  deriving DecidableEq, Repr

def LevelFault.message : LevelFault → String
  | .unknown text => s!"Unknown level: {Text.quote text}"
  | .thing shown => s!"Level not an integer or a valid string: {shown}"

def LevelFault.kind : LevelFault → String
  | .unknown _ => "ValueError"
  | .thing _ => "TypeError"

namespace Level

def rank : Level → Nat
  | .notSet => 0
  | .lowest => 1
  | .debug => 10
  | .info => 20
  | .warning => 30
  | .error => 40
  | .critical => 50

def name : Level → String
  | .notSet => "NOTSET"
  | .lowest => "Level True"
  | .debug => "DEBUG"
  | .info => "INFO"
  | .warning => "WARNING"
  | .error => "ERROR"
  | .critical => "CRITICAL"

def all : List Level := [.notSet, .debug, .info, .warning, .error, .critical]

def switches : List String := ["raiseExceptions", "logThreads", "logMultiprocessing", "logProcesses"]

def ofName? (s : String) : Option Level :=
  if s = "WARN" then some .warning
  else if s = "FATAL" then some .critical
  else if switches.contains s then some .lowest
  else all.find? fun level => level.name = s

def kinds : List String :=
  ["BufferingFormatter", "FileHandler", "Filter", "Filterer", "Formatter", "Handler", "LogRecord",
    "Logger", "LoggerAdapter", "Manager", "NullHandler", "PercentStyle", "PlaceHolder",
    "RootLogger", "StrFormatStyle", "StreamHandler", "StringTemplateStyle", "_StderrHandler"]

def shownKind (name : String) : String := s!"<class 'logging.{name}'>"

def told : List String :=
  ["BASIC_FORMAT", "BufferingFormatter", "CRITICAL", "DEBUG", "ERROR", "FATAL", "FileHandler",
    "Filter", "Formatter", "Handler", "INFO", "LogRecord", "Logger", "LoggerAdapter", "NOTSET",
    "NullHandler", "StreamHandler", "WARN", "WARNING", "addLevelName", "basicConfig",
    "captureWarnings", "critical", "debug", "disable", "error", "exception", "fatal",
    "getLevelName", "getLogger", "getLoggerClass", "info", "log", "makeLogRecord", "setLoggerClass",
    "shutdown", "warn", "warning", "getLogRecordFactory", "setLogRecordFactory", "lastResort",
    "raiseExceptions", "getLevelNamesMapping"]

/-- A way to write records, with the form it has where none is given. -/
def shownStyle (mark kind form : String) : String :=
  s!"'{mark}': ({shownKind kind}, '{form}')"

def shownStyles : String :=
  "\x7b" ++ String.intercalate ", "
    [shownStyle "%" "PercentStyle" "%(levelname)s:%(name)s:%(message)s",
      shownStyle "\x7b" "StrFormatStyle" "\x7blevelname\x7d:\x7bname\x7d:\x7bmessage\x7d",
      shownStyle "$" "StringTemplateStyle" "$\x7blevelname\x7d:$\x7bname\x7d:$\x7bmessage\x7d"]
    ++ "\x7d"

def things : Assoc String String :=
  [("root", "<RootLogger root (WARNING)>"), ("lastResort", "<_StderrHandler <stderr> (WARNING)>"),
    ("_defaultLastResort", "<_StderrHandler <stderr> (WARNING)>"),
    ("_loggerClass", shownKind "Logger"), ("_logRecordFactory", shownKind "LogRecord"),
    ("GenericAlias", "<class 'types.GenericAlias'>"), ("Template", "<class 'string.Template'>"),
    ("_STYLES", shownStyles),
    ("__all__",
      "[" ++ String.intercalate ", " (told.map fun name : String => Text.quote name) ++ "]"),
    ("_warnings_showwarning", "None"), ("atexit", "<module 'atexit' (built-in)>"),
    ("io", "<module 'io' (frozen)>"), ("os", "<module 'os' (frozen)>"),
    ("sys", "<module 'sys' (built-in)>"), ("time", "<module 'time' (built-in)>"),
    ("_levelToName", "\x7b50: 'CRITICAL', 40: 'ERROR', 30: 'WARNING', 20: 'INFO', 10: 'DEBUG', " ++
      "0: 'NOTSET'\x7d"),
    ("_nameToLevel", "\x7b'CRITICAL': 50, 'FATAL': 50, 'ERROR': 40, 'WARN': 30, 'WARNING': 30, " ++
      "'INFO': 20, 'DEBUG': 10, 'NOTSET': 0\x7d")]

def thing? (s : String) : Option String :=
  if kinds.contains s then some (shownKind s) else Assoc.get? things s

/-- The level that a name chooses. The log library also has names of its own for `texts`. -/
def choose (texts : Assoc String String) (s : String) : Except LevelFault Level :=
  match ofName? s, Assoc.get? texts s with
  | some level, _ => .ok level
  | none, some text => .error (.unknown text)
  | none, none =>
    match thing? s with
    | some shown => .error (.thing shown)
    | none => .ok .info

end Level

structure LogRecord where
  logger : String
  level : Level
  message : Points
  deriving DecidableEq, Repr

namespace LogRecord

def root : String := "hyperdiff"

def loggerName (name : String) : String := root ++ "." ++ name

def text (r : LogRecord) : Points := s!"{r.logger} {r.level.name} " ++ r.message

/-- Whether a record counts at a level. A level that is not set lets warnings through. -/
def counts (level : Level) (r : LogRecord) : Bool :=
  (if level = .notSet then Level.warning.rank else level.rank) ≤ r.level.rank

def cache (level : Level) (message : Points) : LogRecord := ⟨loggerName "cache", level, message⟩

def diff (level : Level) (message : Points) : LogRecord := ⟨loggerName "diff", level, message⟩

def repo (level : Level) (message : Points) : LogRecord := ⟨loggerName "repo", level, message⟩

end LogRecord

end ReviewDiff
