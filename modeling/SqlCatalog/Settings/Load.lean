import SqlCatalog.Settings.Document
import SqlCatalog.Settings.Overrides
import SqlCatalog.Text.PathName

/-!
# Loading Settings

Where settings come from: the defaults, a file that replaces them, and variables
of the environment that replace both. The file is read and checked in full before
the environment is looked at.

## Main definitions

* `Settings.variableNames`: The variables and the settings that they give.
* `Settings.load`: The settings of a run, with what is to be noted.
-/

namespace SqlCatalog

/-- The variables of an environment. -/
abbrev Environment := List (String × String)

namespace Settings

/-- The variables and the settings that they give, in the order in which they are read. -/
def variableNames : List (String × Setting) :=
  [("DB_DRIVER", .engine), ("DB_CONNECTION_STRING", .connectionString),
    ("DB_DEFAULT_SCHEMA", .defaultSchema), ("DBMCP_LOG_LEVEL", .logLevel),
    ("DBMCP_LOG_FILE", .logFile)]

/-- What the environment gives. A variable that is empty gives nothing. -/
def environmentEntries (env : Environment) : List (Value × Value) :=
  variableNames.filterMap fun (name, setting) =>
    match env.lookup name with
    | none => none
    | some "" => none
    | some s => some (.text setting.name, .text s)

/-- What the file at a path gives. -/
def fileEntries (read : String → Option Document) (path : String) :
    Outcome (List (Value × Value)) :=
  let shown := Text.tidyPath path
  match read shown with
  | none => refuse (.configuration (.fileNotFound shown))
  | some .unreadable => refuse (.configuration (.unreadable shown))
  | some .other => refuse (.configuration (.notMapping shown))
  | some (.mapping entries) => .ok entries

/-- A note for those who look for faults. -/
def debugNote (message : String) : LogRecord := ⟨.settings, .debug, message⟩

/-- The settings with what the file at a path gives; no path gives nothing. -/
def applyFile (s : Settings) (read : String → Option Document) (path : String) :
    List LogRecord × Outcome Settings :=
  if path = "" then ([], .ok s)
  else match fileEntries read path with
    | .error f => ([], .error f)
    | .ok entries =>
      match Overrides.read entries with
      | (logs, .error f) => (logs, .error f)
      | (logs, .ok o) => (logs ++ [debugNote ("Loaded settings from " ++ path)], .ok (s.apply o))

/-- The settings with what the environment gives. They are described for those who look for
    faults, so they have to have a text. -/
def applyEnvironment (s : Settings) (env : Environment) : List LogRecord × Outcome Settings :=
  match Overrides.read (environmentEntries env) with
  | (logs, .error f) => (logs, .error f)
  | (logs, .ok o) =>
    let resolved := s.apply o
    let shown := Value.map (resolved.describe.map fun (name, v) => (.text name, v))
    match shown.written with
    | .error f => (logs, .error f)
    | .ok text => (logs ++ [debugNote ("Settings: " ++ text)], .ok resolved)

/-- The settings of a run, with what is to be noted. -/
def load (read : String → Option Document) (path : String) (env : Environment) :
    List LogRecord × Outcome Settings :=
  match applyFile {} read path with
  | (logs, .error f) => (logs, .error f)
  | (logs, .ok s) =>
    let (more, outcome) := s.applyEnvironment env
    (logs ++ more, outcome)

end Settings

end SqlCatalog
