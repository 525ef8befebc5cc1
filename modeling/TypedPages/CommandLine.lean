import TypedPages.Document.Scalars
import TypedPages.Filter
import TypedPages.Registry
import TypedPages.Settings.Load

/-!
# The command line

The commands of the program and what each of them answers: an exit code and the texts on the two
channels, that for output and that for errors, where the log stands as well. A command depends on
the files and the environment alone.
-/

namespace TypedPages

/-- A command, as the arguments ask for it. -/
inductive Command where
  | version
  | listFilters
  | validate (settings : String)
  | misuse
  deriving DecidableEq, Repr, Inhabited

/-- What a run of the program leaves behind: its exit code, the text on the channel for output, and
the text on the channel for errors, which begins with the lines that were logged. -/
structure Exit where
  code : Nat
  out : String
  err : String
  deriving DecidableEq, Repr, Inhabited

/-- The same, after lines were logged. -/
def Exit.after (exit : Exit) (lines : String) : Exit :=
  { exit with err := lines ++ exit.err }

@[simp] theorem Exit.after_empty (exit : Exit) : exit.after "" = exit := by
  simp [after]

namespace Command

/-- The number of the version of the program. -/
def versionNumber : String := "1.0.0"

/-- `validate` needs a path. -/
def ofPath : Option String → Command
  | some path => .validate path
  | none => .misuse

/-- Reads the arguments of `validate`: one settings path, of which the last one given counts. -/
def ofValidateArgs (path : Option String) : List String → Command
  | [] => ofPath path
  | "--settings" :: value :: rest => ofValidateArgs (some value) rest
  | "-s" :: value :: rest => ofValidateArgs (some value) rest
  | "--" :: rest => if rest.isEmpty then ofPath path else .misuse
  | arg :: rest =>
    if arg.startsWith "--settings=" then
      ofValidateArgs (some (.ofList (arg.toList.drop 11))) rest
    else if arg.startsWith "-s" && arg != "-s" then
      ofValidateArgs (some (.ofList (arg.toList.drop 2))) rest
    else .misuse

/-- Reads the arguments of a command that takes none. -/
def ofNoArgs (command : Command) : List String → Command
  | [] => command
  | ["--"] => command
  | _ => .misuse

/-- Reads the arguments of `plugins`. -/
def ofPluginsArgs : List String → Command
  | "list" :: rest => ofNoArgs .listFilters rest
  | "--" :: "list" :: rest => ofNoArgs .listFilters rest
  | _ => .misuse

/-- Whether an argument is the short version flag, once or several times. -/
def isShortFlag (arg : String) : Bool :=
  match arg.toList with
  | '-' :: 'V' :: flags => flags.all (· == 'V')
  | _ => false

/-- Reads the options in front of a command: whether the version is asked for, and what follows the
options. An unknown option is a misuse. -/
def readOptions (version : Bool) : List String → Option (Bool × List String)
  | [] => some (version, [])
  | "--" :: rest => some (version, rest)
  | arg :: rest =>
    if arg = "--version" ∨ isShortFlag arg then readOptions true rest
    else if arg.startsWith "-" && arg != "-" then none
    else some (version, arg :: rest)

/-- Reads what follows the options. An option in the place of a command, which may stand there
behind two hyphens, is still read as one. -/
def ofCommandArgs : List String → Command
  | "validate" :: rest => ofValidateArgs none rest
  | "plugins" :: rest => ofPluginsArgs rest
  | args@(arg :: _) =>
    if arg.startsWith "-" then
      match readOptions false args with
      | some (true, _) => .version
      | _ => .misuse
    else .misuse
  | [] => .misuse

/-- Reads the arguments of the program. The options in front of a command are all read before any
of them takes effect. -/
def ofArgs (args : List String) : Command :=
  match readOptions false args with
  | none => .misuse
  | some (true, _) => .version
  | some (false, rest) => ofCommandArgs rest

/-- A failure: its title and what there is to say about it. -/
def failed (title message : String) : Exit :=
  ⟨1, "", s!"Error: {title}\n{message}\n"⟩

/-- How a command ends that meets a failure for which it has no report. What was logged before, and
what the runtime says about the failure, is left out. -/
def crashed : Exit :=
  ⟨1, "", ""⟩

/-- What the failure to load settings is reported as. -/
def loadFailure (e : LoadError) : Exit :=
  match e with
  | .noFile _ => failed "Settings file not found" e.message
  | .syntaxFault => failed "YAML syntax error" e.message
  | .invalid issues => failed "Invalid settings" ("\n".intercalate (issues.map Issue.line))
  | _ => crashed

/-- Prints the schemas that were settled on. -/
def schemas (input output : Schema) : Exit :=
  ⟨0, Scalars.sequence "input_schema" input.specs ++ Scalars.sequence "output_schema" output.specs,
    ""⟩

section

variable [Wording]

/-- Has the built-in filter settle on an output schema. What it logs on the way is shown from a
threshold on. -/
def negotiate (json : Bool) (threshold : Nat) (options : Entries) (input : Schema) : Exit :=
  let filter := Filter.removeColumns
  let negotiation := filter.propose (.mapping options) input
  let lines := Wording.lines json threshold negotiation.log
  match (negotiation.settle filter.name none).outcome with
  | .ok (_, output) => (schemas input output).after lines
  | .error e =>
    if e.isConfiguration then (failed "Invalid filter configuration" e.message).after lines
    else crashed

/-- Checks settings that could be loaded: the filter has to be known, and it has to settle on an
output schema. The one filter that is known is the built-in one. Its pool is made just before it, so
a page size that no pool can have would be reported as a filter that is unknown. -/
def check [Host] (settings : Settings) : Exit :=
  match logThreshold settings.log.level with
  | .error _ => crashed
  | .ok threshold =>
    match BufferPool.ofPageSize 0 settings.pageSize with
    | .error e => failed "Unknown filter plugin" e.message
    | .ok pool =>
      match Registry.standard.create settings.filter.plugin (some pool) with
      | .error e@(.unknown _ _) => failed "Unknown filter plugin" e.message
      | .error _ => crashed
      | .ok _ =>
        match settings.schema with
        | .error _ => crashed
        | .ok input =>
          negotiate settings.log.json threshold settings.filter.options input

end

/-- The line that describes a filter, with the names padded to one width. -/
def filterLine (info : FilterInfo) : String :=
  let name := info.name.toList
  let padding := List.replicate (20 - name.length) ' '
  s!"  {String.ofList (name ++ padding)} - {info.description}\n"

/-- Lists the registered filters. -/
def filterList (registry : Registry) : Exit :=
  let lines := registry.infos.map filterLine
  let body := if lines.isEmpty then "  (none available)\n" else "".intercalate lines
  ⟨0, s!"\nFILTERS:\n{body}\n", ""⟩

/-- Performs a command. -/
def perform [Host] [Wording] (world : World) : Command → Exit
  | version => ⟨0, s!"colsieve version {versionNumber}\n", ""⟩
  | listFilters => filterList .standard
  | validate path =>
    match FilePath.expanded? world.home path with
    | none => crashed
    | some path =>
      match Settings.load world path with
      | .error e => loadFailure e
      | .ok settings => check settings
  | misuse => ⟨2, "", "Usage: colsieve [--version] (validate --settings PATH | plugins list)\n"⟩

end Command

end TypedPages
