import TypedPages.BufferPool
import TypedPages.Checked
import TypedPages.Schema
import TypedPages.Text.Case

/-!
# Settings

The settings of one projection step, as they are read from a document: the specs of the input
columns, the filter with its options, the page size and how to log.
-/

namespace TypedPages

/-- Which filter to run, and the options that are handed to it unread. -/
structure FilterSettings where
  plugin : String
  options : Entries
  deriving Inhabited

/-- How to log. -/
structure LogSettings where
  level : String
  json : Bool
  deriving DecidableEq, Repr, Inhabited

/-- All settings of a projection step. -/
structure Settings where
  inputSchema : List String
  filter : FilterSettings
  pageSize : Nat
  log : LogSettings
  deriving Inhabited

/-- Why a value cannot be assigned to a name of settings. -/
inductive AssignError where
  | frozen (issue : Issue)
  | notClass (className : String)
  | notEntries (className : String)
  deriving DecidableEq, Repr, Inhabited

/-- The wording of an assign error. -/
def AssignError.message : AssignError → String
  | frozen issue => Issue.heading [issue] "ColsieveSettings"
  | notClass className => s!"__class__ must be set to a class, not '{className}' object"
  | notEntries className => s!"__dict__ must be set to a dictionary, not a '{className}'"

namespace FilterSettings

/-- Reads the name of a filter, which is not blank; blanks around it do not belong to it. -/
def readPlugin (d : Document) : Checked String :=
  match d.readText with
  | .error issues => .error issues
  | .ok name =>
    let name := Text.trim name
    if name.isEmpty then .problem (.refused "plugin name cannot be empty") else .ok name

/-- Reads the entries of the filter section. -/
def ofEntries (entries : Entries) : Checked FilterSettings :=
  let plugin := Checked.required "plugin" readPlugin entries
  let options := Checked.optional "options" [] Document.readMapping entries
  let unknown := Checked.unknownFields ["plugin", "options"] entries
  match plugin, options, unknown with
  | .ok plugin, .ok options, [] => .ok { plugin, options }
  | _, _, _ => .error (plugin.issues ++ options.issues ++ unknown)

/-- Reads the filter section. -/
def ofDocument : Document → Checked FilterSettings
  | .mapping entries => ofEntries entries
  | _ => .problem (.notSection "FilterSettings")

/-- The filter section as a document. -/
def toDocument (s : FilterSettings) : Document :=
  .mapping [("plugin", .text s.plugin), ("options", .mapping s.options)]

end FilterSettings

namespace LogSettings

/-- The levels that settings can name. -/
def levels : List String := ["DEBUG", "INFO", "WARNING", "ERROR", "CRITICAL"]

/-- What is used unless the settings say otherwise. -/
def standard : LogSettings :=
  ⟨"INFO", false⟩

/-- Reads a level in any letter case. -/
def readLevel (d : Document) : Checked String :=
  match d.readText with
  | .error issues => .error issues
  | .ok text =>
    let level := Text.upper text
    if levels.contains level then .ok level
    else .problem (.refused s!"Unknown log level '{text}'")

/-- Reads the entries of the logging section. -/
def ofEntries (entries : Entries) : Checked LogSettings :=
  let level := Checked.optional "level" standard.level readLevel entries
  let json := Checked.optional "json_output" standard.json Document.readFlag entries
  let unknown := Checked.unknownFields ["level", "json_output"] entries
  match level, json, unknown with
  | .ok level, .ok json, [] => .ok { level, json }
  | _, _, _ => .error (level.issues ++ json.issues ++ unknown)

/-- Reads the logging section. -/
def ofDocument : Document → Checked LogSettings
  | .mapping entries => ofEntries entries
  | _ => .problem (.notSection "LoggingSettings")

/-- The logging section as a document. -/
def toDocument (s : LogSettings) : Document :=
  .mapping [("level", .text s.level), ("json_output", .flag s.json)]

end LogSettings

namespace Settings

/-- Reads the column specs of the input, which have to make up a schema. They are kept as they
are written. -/
def readSchema (d : Document) : Checked (List String) :=
  match d.readTexts with
  | .error issues => .error issues
  | .ok specs =>
    match Schema.ofSpecs specs with
    | .ok _ => .ok specs
    | .error e => .problem (.refused e.message)

/-- The fields that a settings document can have. -/
def fieldNames : List String := ["input_schema", "filter", "page_size", "logging"]

/-- Reads the entries of a settings document. -/
def ofEntries (entries : Entries) : Checked Settings :=
  let schema := Checked.required "input_schema" readSchema entries
  let filter := Checked.required "filter" FilterSettings.ofDocument entries
  let size :=
    Checked.optional "page_size" BufferPool.defaultPageSize Document.readPositive entries
  let log := Checked.optional "logging" LogSettings.standard LogSettings.ofDocument entries
  let unknown := Checked.unknownFields fieldNames entries
  match schema, filter, size, log, unknown with
  | .ok inputSchema, .ok filter, .ok pageSize, .ok log, [] =>
    .ok { inputSchema, filter, pageSize, log }
  | _, _, _, _, _ =>
    .error (schema.issues ++ filter.issues ++ size.issues ++ log.issues ++ unknown)

/-- The schema of the input. -/
def schema (s : Settings) : Except SchemaError Schema :=
  Schema.ofSpecs s.inputSchema

/-- The entries that read back as the settings. -/
def toEntries (s : Settings) : Entries := [
  ("input_schema", .ofTexts s.inputSchema), ("filter", s.filter.toDocument),
  ("page_size", .ofNat s.pageSize), ("logging", s.log.toDocument)]

/-- Settings do not change once they are read: every assignment to a field is refused. A name that
begins with an underscore is no field; what is noted under it is no part of the settings. -/
def assign (_ : Settings) (name : String) (value : Document) : Except AssignError Unit :=
  if name = "__class__" then .error (.notClass value.className)
  else if name = "__dict__" then
    match value with
    | .mapping _ => .ok ()
    | _ => .error (.notEntries value.className)
  else if name.startsWith "_" then .ok ()
  else .error (.frozen ⟨[.field name], .frozen⟩)

end Settings

end TypedPages
