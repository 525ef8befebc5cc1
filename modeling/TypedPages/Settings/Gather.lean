import TypedPages.Settings.Keys
import TypedPages.Settings.Overrides

/-!
# Gathering settings

Settings are gathered from files, in order, and then from the variables of the environment. Keys
that govern the gathering itself are no settings.
-/

namespace TypedPages

namespace Settings

/-- Keys of options for gathering, in short. -/
def gatheringOptions : List String := [
  "ROOT_PATH", "SETTINGS_FILE", "ENVIRONMENTS", "MAIN_ENV", "LOWERCASE_READ", "ENV_SWITCHER", "ENV",
  "CURRENT_ENV", "FORCE_ENV", "DEFAULT_ENV", "ENVVAR_PREFIX", "IGNORE_UNKNOWN_ENVVARS", "AUTO_CAST",
  "ENCODING", "MERGE_ENABLED", "DOTTED_LOOKUP", "NESTED_SEPARATOR", "ENVVAR", "REDIS",
  "REDIS_ENABLED", "VAULT", "VAULT_ENABLED", "VAULT_PATH", "VAULT_MOUNT_POINT", "VAULT_ROOT_TOKEN",
  "VAULT_KV_VERSION", "VAULT_AUTH_WITH_IAM", "VAULT_AUTH_ROLE", "VAULT_ROLE_ID", "VAULT_SECRET_ID",
  "VAULT_USERNAME", "VAULT_PASSWORD", "CORE_LOADERS", "LOADERS", "SILENT_ERRORS", "FRESH_VARS",
  "DOTENV_PATH", "DOTENV_VERBOSE", "DOTENV_OVERRIDE", "INSTANCE", "YAML_LOADER",
  "COMMENTJSON_ENABLED", "SECRETS", "INCLUDES", "PRELOAD", "SKIP_FILES", "SKIP_VALIDATORS",
  "APPLY_DEFAULT_ON_NONE", "VALIDATE_ON_UPDATE", "SYSENV_FALLBACK", "DOTENV_NOT_FOUND_FATAL"]

/-- Keys that govern how settings are gathered. -/
def gatheringKeys : List String :=
  ["LOAD_DOTENV", "ENVIRONMENTS", "SETTINGS_FILES", "SETTINGS_MODULE"] ++
    gatheringOptions.map (· ++ "_FOR_DYNACONF")

/-- Splits off what begins with the first pair of underscores. -/
def splitPair : List Char → List Char × List Char
  | '_' :: '_' :: cs => ([], '_' :: '_' :: cs)
  | c :: cs => let (front, back) := splitPair cs; (c :: front, back)
  | [] => ([], [])

/-- The key of a file in upper case, up to the first pair of underscores. -/
def fileKey (key : String) : String :=
  let (front, back) := splitPair key.toList
  Text.upper (.ofList front) ++ .ofList back

/-- The entry of a file that says whether its settings are merged into those gathered before. -/
def mergingKey : String := "DYNACONF_MERGE"

/-- The entry of a file that says whether its keys can be paths. -/
def pathsKey : String := "dynaconf_dotted_lookup"

/-- Sets the settings of a file. -/
def setFile (settings file : Entries) : Entries :=
  let paths := match file.lookup pathsKey with
    | some (.flag value) => value
    | some _ => false
    | none => true
  let entries := file.mapKeys fileKey
  let merging := match entries.lookup mergingKey with
    | some d => !d.isVoid
    | none => true
  (entries.erase mergingKey).foldl
    (fun settings (key, value) => settings.set merging paths key value) settings

/-- The settings of files as they are overridden, under lowered keys. -/
def gather (files : List Entries) (overrides : List Override) : Entries :=
  let settings := overrides.foldl Override.apply (files.foldl setFile [])
  Entries.normalize (settings.filter fun e => !gatheringKeys.contains e.1)

end Settings

end TypedPages
