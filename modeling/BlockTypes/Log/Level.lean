import BlockTypes.Text.Quoted
import BlockTypes.Text.Upper

/-!
# Log levels

The log has a level of its own, unless it is unset; then, and for loggers that do not belong to the
log, the general level counts. Every entry of this program is informational.
-/

namespace BlockTypes.Log

/-- A level of importance. -/
inductive Level where
  | unset
  | debug
  | info
  | warning
  | error
  | critical
deriving DecidableEq

namespace Level

/-- The name of a level. -/
def name : Level → String
  | unset => "NOTSET"
  | debug => "DEBUG"
  | info => "INFO"
  | warning => "WARNING"
  | error => "ERROR"
  | critical => "CRITICAL"

/-- The level of a name in capitals; two levels have a second name. -/
def ofName? : String → Option Level
  | "NOTSET" => some unset
  | "DEBUG" => some debug
  | "INFO" => some info
  | "WARNING" => some warning
  | "WARN" => some warning
  | "ERROR" => some error
  | "CRITICAL" => some critical
  | "FATAL" => some critical
  | _ => none

/-- The level where none is given. -/
def standard : Level := .warning

/-- The level that counts where a level may be unset. -/
def effective : Level → Level
  | unset => standard
  | level => level

/-- Whether informational entries are shown at the level. -/
def showsInfo (level : Level) : Bool := level.effective = .debug || level.effective = .info

end Level

/-- Why the log could not be set up as asked. -/
inductive SetupError where
  | unknownLevel (name : WideText)
  | loggerName
deriving DecidableEq

/-- The error in words. -/
def SetupError.message : SetupError → String
  | unknownLevel name => "Unknown logging level: " ++ name.quoted
  | loggerName => "logger name must be a non-empty string"

/-- The level of the log after it is configured. Without a level to set it stays as it is, unless it
is reset by force. -/
def configure (current : Level) (level : Option WideText) (force : Bool) : Except SetupError Level :=
  match level with
  | none => .ok (if force then .standard else current)
  | some text =>
    match text.upper.toString?.bind Level.ofName? with
    | some level => .ok level
    | none => .error (.unknownLevel text.upper)

/-- Whether a logger belongs to the log named `root`: it has that name, or one below it. -/
def belongs (root name : String) : Bool :=
  name == root || (root ++ ".").toList.isPrefixOf name.toList

/-- The level that counts for the logger of the given name, when the log named `root` is at
`current`. -/
def levelOf (root : String) (current : Level) (name : String) : Except SetupError Level :=
  if name = "" then .error .loggerName
  else .ok (if belongs root name then current.effective else .standard)

end BlockTypes.Log
