import SqlCatalog.Reader.Database
import SqlCatalog.Reader.Definition
import SqlCatalog.Reader.FreeQuery
import SqlCatalog.Reader.Listing
import SqlCatalog.Reader.Rows
import SqlCatalog.Signature

/-!
# Reader Methods by Name

Callers that are not typed name a method of the reader and hand its arguments in
by name. The answer is a value whatever the method.

## Main definitions

* `Reader.Method`: The methods.
* `Reader.Method.signature`: The arguments of a method.
* `Reader.Method.inquiry`: A method as an inquiry.
* `Session.call`: A call of a method on a session.
-/

namespace SqlCatalog

namespace Reader

/-- A method of the reader. -/
inductive Method where
  | resolveSchema
  | listTables
  | tableExists
  | describeTable
  | getTableSchema
  | tableColumns
  | listTableRows
  | listViews
  | getViewDefinition
  | listTriggers
  | getTriggerCode
  | listProcedures
  | getProcedureCode
  | getProcedureParameters
  | listFunctions
  | getFunctionCode
  | databaseInfo
  | listSchemas
  | searchObjects
  | executeQuery
deriving DecidableEq

namespace Method

/-- All methods. -/
def all : List Method := [
  .resolveSchema, .listTables, .tableExists, .describeTable, .getTableSchema, .tableColumns,
  .listTableRows, .listViews, .getViewDefinition, .listTriggers, .getTriggerCode,
  .listProcedures, .getProcedureCode, .getProcedureParameters, .listFunctions,
  .getFunctionCode, .databaseInfo, .listSchemas, .searchObjects, .executeQuery]

/-- The name of a method. -/
def name : Method → String
  | .resolveSchema => "resolve_schema"
  | .listTables => "list_tables"
  | .tableExists => "table_exists"
  | .describeTable => "describe_table"
  | .getTableSchema => "get_table_schema"
  | .tableColumns => "table_columns"
  | .listTableRows => "list_table_rows"
  | .listViews => "list_views"
  | .getViewDefinition => "get_view_definition"
  | .listTriggers => "list_triggers"
  | .getTriggerCode => "get_trigger_code"
  | .listProcedures => "list_procedures"
  | .getProcedureCode => "get_procedure_code"
  | .getProcedureParameters => "get_procedure_parameters"
  | .listFunctions => "list_functions"
  | .getFunctionCode => "get_function_code"
  | .databaseInfo => "database_info"
  | .listSchemas => "list_schemas"
  | .searchObjects => "search_objects"
  | .executeQuery => "execute_query"

/-- The method with a name. -/
def ofName? (name : String) : Option Method :=
  all.find? fun m => m.name == name

/-- The arguments of a method. -/
def signature : Method → Signature
  | .resolveSchema => ⟨[], ["schema"]⟩
  | .listTables | .listViews | .listProcedures => ⟨[], ["schema", "name_filter", "pagination"]⟩
  | .tableExists | .describeTable | .getTableSchema | .tableColumns => ⟨["table"], ["schema"]⟩
  | .listTableRows =>
    ⟨["table"],
      ["schema", "filters", "columns", "order_by", "order_direction", "pagination"]⟩
  | .getViewDefinition | .getTriggerCode | .getProcedureCode | .getProcedureParameters
  | .getFunctionCode => ⟨["name"], ["schema"]⟩
  | .listTriggers =>
    ⟨[], ["schema", "table", "name_filter", "include_disabled", "pagination"]⟩
  | .listFunctions => ⟨[], ["schema", "name_filter", "function_type", "pagination"]⟩
  | .databaseInfo | .listSchemas => {}
  | .searchObjects => ⟨["search_term"], ["search_in_code", "object_types"]⟩
  | .executeQuery => ⟨["sql"], ["max_rows"]⟩

/-- A query text that may be absent. -/
def queryText : Value → Outcome String
  | .text s => .ok s
  | .null => .ok ""
  | _ => .error (.misuse .wrongKind)

/-- A list of records as a value. -/
def recordList (rs : List Record) : Value := .list (rs.map Record.value)

/-- A method as an inquiry. What the caller leaves out has its default. -/
def inquiry (f : Frame) (m : Method) (named : Arguments) : Inquiry Value := do
  let given ← m.signature.bind named
  let text (name : String) : Value := given.valueOr name (.text "")
  let pages := given.valueOr "pagination" .null
  let schema := text "schema"
  match m with
  | .resolveSchema => return .text (← f.resolveSchema schema)
  | .listTables => return (← Reader.listTables f schema (text "name_filter") pages).record.value
  | .tableExists => return .bool (← Reader.tableExists f (text "table") schema)
  | .describeTable => return recordList (← Reader.describeTable f (text "table") schema)
  | .getTableSchema => return (← Reader.tableSchema f (text "table") schema).record.value
  | .tableColumns => return .list (← Reader.tableColumns f (text "table") schema)
  | .listTableRows =>
    let rows ← Reader.tableRows f
      { table := text "table", schema, filters := given.valueOr "filters" .null,
        columns := given.valueOr "columns" .null, orderBy := text "order_by",
        direction := given.valueOr "order_direction" (.text "ASC"), pagination := pages }
    return rows.record.value
  | .listViews => return (← Reader.listViews f schema (text "name_filter") pages).record.value
  | .getViewDefinition => return .text (← Reader.viewDefinition f (text "name") schema)
  | .listTriggers =>
    let listing ← Reader.listTriggers f schema (text "table") (text "name_filter")
      (given.valueOr "include_disabled" (.bool true)) pages
    return listing.record.value
  | .getTriggerCode => return .text (← Reader.triggerCode f (text "name") schema)
  | .listProcedures =>
    return (← Reader.listProcedures f schema (text "name_filter") pages).record.value
  | .getProcedureCode => return .text (← Reader.procedureCode f (text "name") schema)
  | .getProcedureParameters =>
    let declared ← Reader.procedureParameters f (text "name") schema
    return recordList (declared.map ParameterInfo.record)
  | .listFunctions =>
    let listing ← Reader.listFunctions f schema (text "name_filter")
      (given.valueOr "function_type" (.text "all")) pages
    return listing.record.value
  | .getFunctionCode => return .text (← Reader.functionCode f (text "name") schema)
  | .databaseInfo => return (← Reader.databaseInfo f).record.value
  | .listSchemas => return .list (← Reader.listSchemas f)
  | .searchObjects =>
    return recordList (← Reader.searchObjects f (text "search_term")
      (given.valueOr "search_in_code" (.bool false)) (given.valueOr "object_types" .null))
  | .executeQuery =>
    let sql ← queryText (given.valueOr "sql" .null)
    return (← Reader.executeQuery f sql (given.valueOr "max_rows" (.int ResultSet.defaultRows))).record.value

/-- A method is found by its name. -/
theorem ofName?_name (m : Method) : ofName? m.name = some m := by
  cases m <;> decide

end Method

end Reader

/-- A call of a method on a session, with the answer and the session afterwards. A
    query that the gate refuses is noted in the log. -/
def Session.call {σ : Type} [Server σ] (m : Reader.Method) (args : Arguments) (s : Session σ) :
    Outcome Value × Session σ :=
  let (answer, s) := (m.inquiry s.frame args).exec s
  match answer with
  | .error (.error (.rejected rule reason)) =>
    (answer, { s with logs := s.logs ++ Gate.verdictLog (some ⟨rule, reason⟩) })
  | answer => (answer, s)

end SqlCatalog
