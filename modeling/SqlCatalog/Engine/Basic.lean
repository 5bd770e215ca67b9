import SqlCatalog.Error
import SqlCatalog.Text.Blank
import SqlCatalog.Text.Case

/-!
# Engines

The database engines that the library speaks to, and the names by which a caller
may call them.

## Main definitions

* `Engine`: The five engines.
* `Engine.driverName`: The name of an engine's driver.
* `Engine.parse`: The engine that a driver name or an alias designates.
* `Feature`: What some engines have and others lack.
-/

namespace SqlCatalog

/-- A database engine. -/
inductive Engine where
  | sqlServer
  | postgres
  | mysql
  | oracle
  | sqlite
deriving DecidableEq

namespace Engine

/-- All engines, in the order in which they are listed. -/
def all : List Engine := [.sqlServer, .postgres, .mysql, .oracle, .sqlite]

/-- The name of an engine's driver, which is what a configuration holds. -/
def driverName : Engine → String
  | .sqlServer => "sqlserver"
  | .postgres => "postgres"
  | .mysql => "mysql"
  | .oracle => "godror"
  | .sqlite => "sqlite3"

/-- The names that designate an engine, in lower case. -/
def aliases : Engine → List String
  | .sqlServer => ["sqlserver", "mssql"]
  | .postgres => ["postgres", "postgresql", "pg"]
  | .mysql => ["mysql", "mariadb"]
  | .oracle => ["godror", "oracle"]
  | .sqlite => ["sqlite3", "sqlite"]

/-- The engine with an alias. -/
def ofAlias? (name : String) : Option Engine :=
  all.find? fun e => e.aliases.contains name

/-- The engine that a value designates. Case and blanks around the name do not
    count; absent values designate nothing. -/
def parse (name : Value) : Outcome Engine :=
  let key := if name.isTruthy then name.plain else ""
  match ofAlias? (Text.lowercase (Text.trimmed key)) with
  | some e => .ok e
  | none => refuse (.configuration (.unknownDriver name))

/-- An engine is found by the name of its driver. -/
theorem ofAlias?_driverName (e : Engine) : ofAlias? e.driverName = some e := by
  cases e <;> decide

end Engine

/-- What some engines have and others lack. -/
inductive Feature where
  | procedures
  | functions
  | triggers
  | views
  | schemas
  | caselessLike
deriving DecidableEq

namespace Feature

/-- What a message calls the feature. -/
def title : Feature → String
  | .procedures => "stored procedures"
  | .functions => "functions"
  | .triggers => "triggers"
  | .views => "views"
  | .schemas => "schemas"
  | .caselessLike => "ilike"

/-- All features, in the order of their titles. -/
def all : List Feature :=
  [.functions, .caselessLike, .schemas, .procedures, .triggers, .views]

end Feature

end SqlCatalog
