/-!
# Log Records

What the library reports about its work. Operations return their records beside
their results; nothing is written here.

## Main definitions

* `LogLevel`: The severity of a record.
* `LogSource`: The part of the library that a record comes from.
* `LogRecord`: A source, a severity and a message.
-/

namespace SqlCatalog

/-- The severities, mildest first. -/
inductive LogLevel where
  | debug
  | info
  | warning
  | error
  | critical
deriving DecidableEq

namespace LogLevel

/-- The name of a severity, as log lines show it. -/
def name : LogLevel → String
  | .debug => "DEBUG"
  | .info => "INFO"
  | .warning => "WARNING"
  | .error => "ERROR"
  | .critical => "CRITICAL"

/-- The number of a severity; higher is more severe. -/
def number : LogLevel → Int
  | .debug => 10
  | .info => 20
  | .warning => 30
  | .error => 40
  | .critical => 50

/-- All severities, mildest first. -/
def all : List LogLevel := [.debug, .info, .warning, .error, .critical]

/-- The severity with a name. -/
def ofName? (name : String) : Option LogLevel :=
  all.find? fun l => l.name == name

/-- The severity with a number. -/
def ofNumber? (number : Int) : Option LogLevel :=
  all.find? fun l => l.number == number

/-- A severity is found by its name. -/
theorem ofName?_name (l : LogLevel) : ofName? l.name = some l := by
  cases l <;> decide

end LogLevel

/-- The part of the library that a record comes from. -/
inductive LogSource where
  | gate
  | builder
  | filters
  | datasource
  | settings
deriving DecidableEq

namespace LogSource

/-- The name of a source, as log lines show it. -/
def name : LogSource → String
  | .gate => "dbmcp.security.sql_validator"
  | .builder => "dbmcp.database.query_builder"
  | .filters => "dbmcp.database.filters"
  | .datasource => "dbmcp.database.datasource"
  | .settings => "dbmcp.config"

end LogSource

/-- A source, a severity and a message. -/
structure LogRecord where
  source : LogSource
  level : LogLevel
  message : String
deriving DecidableEq

end SqlCatalog
