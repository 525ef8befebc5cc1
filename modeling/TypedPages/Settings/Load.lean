import TypedPages.Document.Json
import TypedPages.Document.Yaml
import TypedPages.Settings
import TypedPages.Settings.Gather
import TypedPages.World

/-!
# Loading settings

Settings come from a file, from the local file beside it, and from the variables of the
environment; the later ones win.
-/

namespace TypedPages

/-- Why no settings can be had from a path. -/
inductive LoadError where
  | noFile (path : String)
  | notJson (report : String)
  | syntaxFault
  | unreadable
  | noEntries (className : String)
  | uncast (e : CastError)
  | invalid (issues : List Issue)
  deriving DecidableEq, Repr, Inhabited

/-- The first line of the report on settings that cannot be loaded. -/
def LoadError.message : LoadError → String
  | noFile path => s!"Config file not found: {path}"
  | notJson report => report
  | syntaxFault => "the file is not a settings document"
  | unreadable => "the file cannot be read"
  | noEntries className => s!"'{className}' object has no attribute 'get'"
  | uncast e => e.message
  | invalid issues => Issue.heading issues "ColsieveSettings"

namespace Settings

/-- The extensions of the files that are read. -/
def extensions : List String := ["yaml", "yml", "json"]

/-- Reads a settings document; JSON files are told by their extension. -/
def readDocument (extension text : String) : Except LoadError Document :=
  if extension = "json" then
    let cs := Text.unifyLineEnds text.toList
    (Json.readChars cs).mapError fun fault => .notJson (fault.message cs)
  else
    (Yaml.read text).mapError fun
      | .malformed => .syntaxFault
      | .meaningless => .unreadable

/-- Reads the entries of a settings file and casts them. A document that says nothing has none. -/
def readFile (extension text : String) : Except LoadError Entries := do
  let d ← readDocument extension text
  if d.isVoid then return []
  else match d with
    | .mapping entries => (Document.castEntries entries).mapError .uncast
    | d => throw (.noEntries d.className)

/-- The entries of the settings file at a path. What is no file has none. -/
def readPath (world : World) (path : String) : Except LoadError Entries :=
  match world.look path with
  | .file text => readFile (FilePath.extension path) text
  | _ => .ok []

/-- The paths that are read for a settings path: its own, and that of the local settings beside it.
Files of other kinds are not read. -/
def pathsToRead (path : String) : List String :=
  if !extensions.contains (FilePath.extension path) then []
  else if FilePath.isLocal path then [path]
  else [path, FilePath.localOf path]

/-- Loads the settings of a path, as the environment overrides them. -/
def load (world : World) (path : String) : Except LoadError Settings := do
  let path := FilePath.normal path
  if world.look path = .nothing then throw (.noFile path)
  let files ← (pathsToRead path).mapM (readPath world)
  let overrides ← (Override.ofEnvironment world.environment).mapError .uncast
  (ofEntries (gather files overrides)).mapError .invalid

end Settings

end TypedPages
