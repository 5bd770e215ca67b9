import SqlCatalog.Query.Build

/-!
# Queries by Name

Callers that are not typed name an operation and its parameters. What they leave
out has its default; what they name and the operation does not know is a misuse.

## Main definitions

* `Operation.build`: The query of an operation whose parameters are given by name.
-/

namespace SqlCatalog

namespace Operation

/-- The window that a caller names, completed from a default one. -/
def windowOf (given : Arguments) (default : Window) : Window :=
  ⟨given.valueOr "limit" default.limit, given.valueOr "offset" default.offset⟩

/-- The entries of an argument map, none when it is absent. -/
def argumentEntries (v : Value) : Outcome (List (Value × Value)) :=
  match v with
  | .map entries => .ok entries
  | v => if v.isTruthy then .error (.misuse .wrongKind) else .ok []

/-- A declared parameter from a list of its name, its type and whether it puts
    something out. What is left out of the list has its default. -/
def declaredParameter : Value → Outcome ParameterInfo
  | .list [name] => .ok ⟨name, .text "", false⟩
  | .list [name, typeName] => .ok ⟨name, typeName, false⟩
  | .list [name, typeName, output] => .ok ⟨name, typeName, output.isTruthy⟩
  | _ => .error (.misuse .wrongKind)

/-- The declared parameters of a call, where they are known. -/
def declaredParameters : Value → Outcome (Option (List ParameterInfo))
  | .null => .ok none
  | v => do
    let vs ← Build.items v
    let ps ← vs.mapM declaredParameter
    return some ps

/-- A filter clause that is given as text. -/
def givenFilter (v : Value) : List Piece :=
  if v.isTruthy then [.sql v.plain] else []

/-- The query of an operation whose parameters are given by name. The checks of a
    window and of an order come before those of the names they go with. -/
def build (e : Engine) (op : Operation) (named : Arguments) : Build.Built := do
  let given ← op.signature.bind named
  let absent := Value.text ""
  let value (name : String) : Value := given.valueOr name absent
  let window := windowOf given {}
  match op with
  | .listTables => Build.listTables e (value "schema") (value "name_filter") window
  | .describeTable => Build.describeTable e (value "table") (value "schema")
  | .tableExists => Build.tableExists e (value "table") (value "schema")
  | .getColumns => Build.getColumns e (value "table") (value "schema")
  | .getTableSchemaFull => Build.getTableSchemaFull e (value "table") (value "schema")
  | .getPrimaryKey => Build.getPrimaryKey e (value "table") (value "schema")
  | .getIndexes => Build.getIndexes e (value "table") (value "schema")
  | .getForeignKeys => Build.getForeignKeys e (value "table") (value "schema")
  | .listProcedures => Build.listProcedures e (value "schema") (value "name_filter") window
  | .getProcedureCode => Build.getProcedureCode e (value "name") (value "schema")
  | .getProcedureParameters => Build.getProcedureParameters e (value "name") (value "schema")
  | .listFunctions =>
    Build.listFunctions e (value "schema") (value "name_filter")
      (given.valueOr "function_type" (.text "all")) window
  | .getFunctionCode => Build.getFunctionCode e (value "name") (value "schema")
  | .listViews => Build.listViews e (value "schema") (value "name_filter") window
  | .getViewDefinition => Build.getViewDefinition e (value "name") (value "schema")
  | .listTriggers =>
    Build.listTriggers e (value "schema") (value "table") (value "name_filter")
      (given.valueOr "include_disabled" (.bool true)) window
  | .getTriggerCode => Build.getTriggerCode e (value "name") (value "schema")
  | .databaseVersion => Build.databaseVersion e
  | .databaseDetails => Build.databaseDetails e
  | .objectCounts => Build.objectCounts e
  | .listSchemas => Build.listSchemas e
  | .currentSchema => Build.currentSchema e
  | .searchObjects =>
    Build.searchObjects e (value "search_term")
      (given.valueOr "search_in_code" (.bool false)) (given.valueOr "object_types" .null)
  | .selectRows => do
    let rows := windowOf given .ofRows
    rows.check
    let direction ← Build.orderDirection (given.valueOr "order_direction" (.text "ASC"))
    Build.selectRows e ⟨value "table", value "schema", given.valueOr "columns" (.list []),
      givenFilter (value "where_clause"), value "order_by", direction, rows⟩
  | .countRows =>
    Build.countRows e (value "table") (value "schema") (givenFilter (value "where_clause"))
  | .callProcedure => do
    if !e.supports .procedures then Build.unsupported
    else do
      let entries ← argumentEntries (given.valueOr "arguments" .null)
      let declared ← declaredParameters (given.valueOr "declared_parameters" .null)
      Build.callProcedure e (value "name") (value "schema") entries declared

end Operation

end SqlCatalog
