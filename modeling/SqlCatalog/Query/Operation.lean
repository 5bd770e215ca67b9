import SqlCatalog.Signature

/-!
# Operations

The catalogue operations by name, with the parameters that each of them takes.
Callers that are not typed name an operation and hand its parameters in by name;
the tables here decide which names an operation knows and which it needs.

## Main definitions

* `Operation`: The operations.
* `Operation.name`, `Operation.ofName?`: Their names.
* `Operation.signature`: The parameters of an operation.
-/

namespace SqlCatalog

/-- A catalogue operation. -/
inductive Operation where
  | listTables
  | describeTable
  | tableExists
  | getColumns
  | getTableSchemaFull
  | getPrimaryKey
  | getIndexes
  | getForeignKeys
  | listProcedures
  | getProcedureCode
  | getProcedureParameters
  | listFunctions
  | getFunctionCode
  | listViews
  | getViewDefinition
  | listTriggers
  | getTriggerCode
  | databaseVersion
  | databaseDetails
  | objectCounts
  | listSchemas
  | currentSchema
  | searchObjects
  | selectRows
  | countRows
  | callProcedure
deriving DecidableEq

namespace Operation

/-- All operations, in the order in which they are listed. -/
def all : List Operation := [
  .listTables, .describeTable, .tableExists, .getColumns, .getTableSchemaFull, .getPrimaryKey,
  .getIndexes, .getForeignKeys, .listProcedures, .getProcedureCode, .getProcedureParameters,
  .listFunctions, .getFunctionCode, .listViews, .getViewDefinition, .listTriggers,
  .getTriggerCode, .databaseVersion, .databaseDetails, .objectCounts, .listSchemas,
  .currentSchema, .searchObjects, .selectRows, .countRows, .callProcedure]

/-- The name of an operation. -/
def name : Operation → String
  | .listTables => "list_tables"
  | .describeTable => "describe_table"
  | .tableExists => "table_exists"
  | .getColumns => "get_columns"
  | .getTableSchemaFull => "get_table_schema_full"
  | .getPrimaryKey => "get_primary_key"
  | .getIndexes => "get_indexes"
  | .getForeignKeys => "get_foreign_keys"
  | .listProcedures => "list_procedures"
  | .getProcedureCode => "get_procedure_code"
  | .getProcedureParameters => "get_procedure_parameters"
  | .listFunctions => "list_functions"
  | .getFunctionCode => "get_function_code"
  | .listViews => "list_views"
  | .getViewDefinition => "get_view_definition"
  | .listTriggers => "list_triggers"
  | .getTriggerCode => "get_trigger_code"
  | .databaseVersion => "database_version"
  | .databaseDetails => "database_details"
  | .objectCounts => "object_counts"
  | .listSchemas => "list_schemas"
  | .currentSchema => "current_schema"
  | .searchObjects => "search_objects"
  | .selectRows => "select_rows"
  | .countRows => "count_rows"
  | .callProcedure => "call_procedure"

/-- The operation with a name. -/
def ofName? (name : String) : Option Operation :=
  all.find? fun op => op.name == name

/-- The operation that a value names. -/
def parse (v : Value) : Outcome Operation :=
  match v.text?.bind ofName? with
  | some op => .ok op
  | none => refuse (.input (.operation v))

/-- The parameters of an operation. -/
def signature : Operation → Signature
  | .listTables | .listProcedures | .listViews =>
    ⟨[], ["schema", "name_filter", "limit", "offset"]⟩
  | .describeTable | .tableExists | .getColumns | .getTableSchemaFull | .getPrimaryKey
  | .getIndexes | .getForeignKeys => ⟨["table"], ["schema"]⟩
  | .getProcedureCode | .getProcedureParameters | .getFunctionCode | .getViewDefinition
  | .getTriggerCode => ⟨["name"], ["schema"]⟩
  | .listFunctions => ⟨[], ["schema", "name_filter", "function_type", "limit", "offset"]⟩
  | .listTriggers =>
    ⟨[], ["schema", "table", "name_filter", "include_disabled", "limit", "offset"]⟩
  | .databaseVersion | .databaseDetails | .objectCounts | .listSchemas | .currentSchema => {}
  | .searchObjects => ⟨["search_term"], ["search_in_code", "object_types"]⟩
  | .selectRows =>
    ⟨["table"], ["schema", "columns", "where_clause", "order_by", "order_direction", "limit",
      "offset"]⟩
  | .countRows => ⟨["table"], ["schema", "where_clause"]⟩
  | .callProcedure => ⟨["name"], ["schema", "arguments", "declared_parameters"]⟩

/-- An operation is found by its name. -/
theorem ofName?_name (op : Operation) : ofName? op.name = some op := by
  cases op <;> decide

end Operation

end SqlCatalog
