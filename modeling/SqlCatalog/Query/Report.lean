import SqlCatalog.Layout.Style
import SqlCatalog.Log
import SqlCatalog.Query.Build

/-!
# Reports on Built Queries

What the log says about a query: its operation, its text on one line and the
arguments that are bound to it.

## Main definitions

* `Query.record`: The log record of a query.
* `Build.log`: The log records of building one.
-/

namespace SqlCatalog

/-- The log record of a query in an engine's writing. -/
def Query.record (q : Query) (f : Layout.Formatter) (e : Engine) : LogRecord :=
  ⟨.builder, .debug, q.operation.name ++ ": " ++ Layout.apply f .singleLine (q.sql e) ++
    " | args=" ++ (Value.list q.args).shown⟩

/-- The log records of building a query: one when there is a query. -/
def Build.log (f : Layout.Formatter) (e : Engine) : Option Query → List LogRecord
  | some q => [q.record f e]
  | none => []

end SqlCatalog
