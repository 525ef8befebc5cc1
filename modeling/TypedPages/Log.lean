import TypedPages.Document
import TypedPages.Text.Case

/-!
# Log events

An event has a level, the name of its logger, a wording and fields. Fields that are bound around
an event are added when it is logged; the event's own fields win over them.
-/

namespace TypedPages

/-- The severity of an event. -/
inductive LogLevel where
  | debug
  | info
  | warning
  | error
  | critical
  deriving DecidableEq, Repr, Inhabited

/-- What a component reports while it works. -/
structure LogEvent where
  level : LogLevel
  logger : String
  event : String
  fields : Entries
  deriving Inhabited

namespace LogLevel

/-- The rank by which events are let through. -/
def rank : LogLevel → Nat
  | debug => 10
  | info => 20
  | warning => 30
  | error => 40
  | critical => 50

/-- The name under which an event shows its level. -/
def name : LogLevel → String
  | debug => "debug"
  | info => "info"
  | warning => "warning"
  | error => "error"
  | critical => "critical"

end LogLevel

/-- A way to log: the name of the call and the level of the events that it logs. -/
structure LogMethod where
  name : String
  level : LogLevel
  deriving DecidableEq, Repr, Inhabited

namespace LogMethod

/-- The calls by name. Two of them have a second name. -/
def named : List (String × LogMethod) := [
  ("debug", ⟨"debug", .debug⟩), ("info", ⟨"info", .info⟩), ("warning", ⟨"warning", .warning⟩),
  ("warn", ⟨"warning", .warning⟩), ("error", ⟨"error", .error⟩),
  ("exception", ⟨"exception", .error⟩), ("critical", ⟨"critical", .critical⟩),
  ("fatal", ⟨"critical", .critical⟩)]

/-- Reads the name of a call. -/
def ofName? (name : String) : Option LogMethod :=
  named.lookup name

end LogMethod

/-- The names that a threshold can have, with the least rank that each lets through. -/
def logThresholds : List (String × Nat) := [
  ("NOTSET", 0), ("DEBUG", 10), ("INFO", 20), ("WARN", 30), ("WARNING", 30), ("ERROR", 40),
  ("CRITICAL", 50), ("FATAL", 50)]

/-- Why a text names no threshold. Two names that look like those of thresholds belong to the
layout of log lines. -/
inductive ThresholdError where
  | unknown (name : String)
  | layout
  | layouts
  deriving DecidableEq, Repr, Inhabited

namespace ThresholdError

/-- The layout of a log line. -/
def lineLayout : String := "%(levelname)s:%(name)s:%(message)s"

/-- The layout in the three styles that it can be written in. -/
def lineLayouts : String :=
  s!"\x7b'%': (<class 'logging.PercentStyle'>, '{lineLayout}'), " ++
    "'\x7b': (<class 'logging.StrFormatStyle'>, " ++
    "'\x7blevelname\x7d:\x7bname\x7d:\x7bmessage\x7d'), " ++
    "'$': (<class 'logging.StringTemplateStyle'>, " ++
    "'$\x7blevelname\x7d:$\x7bname\x7d:$\x7bmessage\x7d')\x7d"

/-- The wording of a threshold error. -/
def message : ThresholdError → String
  | unknown name => s!"module 'logging' has no attribute '{name}'"
  | layout => s!"Unknown level: '{lineLayout}'"
  | layouts => s!"Level not an integer or a valid string: {lineLayouts}"

end ThresholdError

/-- Reads the name of a threshold in any letter case. -/
def logThreshold (name : String) : Except ThresholdError Nat :=
  let name := Text.upper name
  match logThresholds.lookup name with
  | some rank => .ok rank
  | none =>
    if name = "BASIC_FORMAT" then .error .layout
    else if name = "_STYLES" then .error .layouts
    else .error (.unknown name)

namespace LogEvent

/-- Adds bound fields under the event's own. -/
def within (context : Entries) (e : LogEvent) : LogEvent :=
  { e with fields := e.fields.foldl (fun fields (key, value) => fields.insert key value) context }

/-- Whether an event is severe enough for a threshold. -/
def passes (threshold : Nat) (e : LogEvent) : Bool :=
  threshold ≤ e.level.rank

/-- The name under which an event shows its logger; the one without a name is the root. -/
def loggerName (e : LogEvent) : String :=
  if e.logger.isEmpty then "root" else e.logger

/-- Fields that steer how an event is shown and are not shown themselves. -/
def steeringFields : List String := ["exc_info", "stack_info", "_record", "_from_structlog"]

/-- The event as one mapping. Its level, logger and wording win over fields of those names. -/
def toDocument (e : LogEvent) : Document :=
  let fields : Entries := e.fields.filter fun field => !steeringFields.contains field.1
  .mapping (((fields.insert "event" (.text e.event)).insert "level" (.text e.level.name)).insert
    "logger" (.text e.loggerName))

end LogEvent

end TypedPages
