import SqlCatalog.Engine.Basic
import SqlCatalog.Log
import SqlCatalog.Pagination
import SqlCatalog.ResultSet

/-!
# Settings

The resolved settings of a run. Every field is of the type in which it is used,
so that nobody checks it again. The connection string is a secret: a description
of the settings says whether there is one and no more, and printed settings leave it out.

## Main definitions

* `Settings`: The settings.
* `Settings.describe`: What may be shown of them.
* `Settings.printed`: The settings as a debugger prints them.
* `Setting`: The names of the settings.
-/

namespace SqlCatalog

/-- The resolved settings of a run. -/
structure Settings where
  engine : Engine := .sqlServer
  connectionString : String := ""
  defaultSchema : String := ""
  logLevel : LogLevel := .info
  logFile : Option String := none
  maxPageSize : Int := Page.maxSize
  maxRowsPageSize : Int := Page.maxRowsSize
  maxQueryRows : Int := ResultSet.maxRows

/-- A setting. -/
inductive Setting where
  | engine
  | connectionString
  | defaultSchema
  | logLevel
  | logFile
  | maxPageSize
  | maxRowsPageSize
  | maxQueryRows
deriving DecidableEq

namespace Setting

/-- All settings, in the order in which they are described. -/
def all : List Setting :=
  [.engine, .connectionString, .defaultSchema, .logLevel, .logFile, .maxPageSize,
    .maxRowsPageSize, .maxQueryRows]

/-- The name of a setting, as files write it. -/
def name : Setting → String
  | .engine => "driver"
  | .connectionString => "connection_string"
  | .defaultSchema => "default_schema"
  | .logLevel => "log_level"
  | .logFile => "log_file"
  | .maxPageSize => "max_page_size"
  | .maxRowsPageSize => "max_rows_page_size"
  | .maxQueryRows => "max_query_rows"

/-- The setting with a name. -/
def ofName? (name : String) : Option Setting :=
  all.find? fun s => s.name == name

/-- A setting is found by its name. -/
theorem ofName?_name (s : Setting) : ofName? s.name = some s := by
  cases s <;> decide

end Setting

namespace Settings

/-- The value of a setting. -/
def get (s : Settings) : Setting → Value
  | .engine => .text s.engine.driverName
  | .connectionString => .text s.connectionString
  | .defaultSchema => .text s.defaultSchema
  | .logLevel => .text s.logLevel.name
  | .logFile => .ofOption (s.logFile.map .text)
  | .maxPageSize => .int s.maxPageSize
  | .maxRowsPageSize => .int s.maxRowsPageSize
  | .maxQueryRows => .int s.maxQueryRows

/-- All settings under their names. -/
def record (s : Settings) : List (String × Value) :=
  Setting.all.map fun k => (k.name, s.get k)

/-- What stands for a secret in a description. -/
def mask (secret : String) : String :=
  if secret = "" then "" else "***"

/-- The settings as they may be shown: the connection string is masked. -/
def describe (s : Settings) : List (String × Value) :=
  { s with connectionString := mask s.connectionString }.record

/-- The label of an engine, as it is printed beside the name of its driver. -/
def engineLabel : Engine → String
  | .sqlServer => "SQLSERVER"
  | .postgres => "POSTGRESQL"
  | .mysql => "MYSQL"
  | .oracle => "ORACLE"
  | .sqlite => "SQLITE"

/-- The value of a setting as it is printed. -/
def printedValue (s : Settings) : Setting → String
  | .engine => "<DriverType." ++ engineLabel s.engine ++ ": " ++ (s.get .engine).shown ++ ">"
  | k => (s.get k).shown

/-- The settings as a debugger prints them: every field but the connection string. -/
def printed (s : Settings) : String :=
  let fields := Setting.all.filter (· ≠ .connectionString)
  "Settings(" ++ ", ".intercalate (fields.map fun k => k.name ++ "=" ++ s.printedValue k) ++ ")"

example : printed { connectionString := "postgres://app" } =
    "Settings(driver=<DriverType.SQLSERVER: 'sqlserver'>, default_schema='', log_level='INFO', "
      ++ "log_file=None, max_page_size=500, max_rows_page_size=1000, max_query_rows=10000)" := by
  decide +kernel

end Settings

end SqlCatalog
