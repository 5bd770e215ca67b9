import SqlCatalog.Engine.Writing
import SqlCatalog.Identifier
import SqlCatalog.Query.Operation
import SqlCatalog.Query.Parameter

/-!
# Building Queries

One query for each catalogue operation, written for one engine. A query is a
list of pieces and the arguments that its markers stand for. Values of callers
are always bound; what is embedded is a name that passed the identifier grammar,
or a code of the engine's own catalogue.

An operation that the engine lacks gives no query, which is not an error here:
whether it is one is for the caller to say.

## Main definitions

* `Query`: The pieces of a query with its arguments.
* `Window`: How many rows to skip and how many to take.
* `Build.listTables` and the like: The query of an operation.
* `Build.selectRows`, `Build.countRows`: Queries on the rows of one table.
* `Build.callProcedure`: The call of a stored procedure.
-/

namespace SqlCatalog

/-- A query for an operation: its pieces, and the arguments in the order of their
    markers. -/
structure Query where
  operation : Operation
  pieces : List Piece
  args : List Value

/-- The text of a query in an engine's writing. -/
def Query.sql (q : Query) (e : Engine) : String :=
  e.render q.pieces

/-- How many rows to take and how many to skip, as the caller gave them. -/
structure Window where
  limit : Value := .int 100
  offset : Value := .int 0

namespace Window

/-- The window of rows that a query on a table has when the caller gives none. -/
def ofRows : Window := ⟨.int 50, .int 0⟩

/-- A window takes at least one row and skips none or more. -/
def check (w : Window) : Outcome Unit := do
  match w.limit.whole? with
  | some n => if n ≤ 0 then refuse (.input (.limit w.limit))
  | none => refuse (.input (.limit w.limit))
  match w.offset.whole? with
  | some n => if n < 0 then refuse (.input (.offset w.offset))
  | none => refuse (.input (.offset w.offset))

/-- The clause of the window in an engine's writing. -/
def clause (w : Window) (e : Engine) (order : List Piece) : List Piece :=
  e.window w.limit.plain w.offset.plain order

end Window

/-- A caller's text with case folded as the engine's catalogue folds it. Folding is
    defined on texts, and byte by byte on bytes that are no view. -/
def Engine.foldValue (e : Engine) (v : Value) : Outcome Value :=
  if !e.rules.foldsNames then .ok v
  else match v with
    | .text s => .ok (.text (Text.uppercase s))
    | .bytes .fixed data => .ok (.bytes .fixed (data.map upperByte))
    | .bytes .growable data => .ok (.bytes .growable (data.map upperByte))
    | _ => .error (.misuse .notText)
where
  /-- A byte with an ASCII letter in upper case. -/
  upperByte (b : UInt8) : UInt8 := if 0x61 ≤ b && b ≤ 0x7A then b - 0x20 else b

namespace Build

/-- The outcome of building: no query where the engine lacks the operation. -/
abbrev Built := Outcome (Option Query)

/-- The engine lacks the operation. -/
def unsupported : Built := .ok none

/-- The query, unless there is nothing to say. -/
def query (op : Operation) (pieces : List Piece) (args : List Value) : Built :=
  .ok (if pieces.isEmpty then none else some ⟨op, pieces, args⟩)

/-- A schema to filter by or to look in: empty when absent, else a name, folded as the
    catalogue folds names. -/
def schemaValue (e : Engine) (schema : Value) : Outcome Value := do
  if !schema.isTruthy then return .text ""
  let name ← Identifier.require schema "schema"
  return .text (e.fold name)

/-- The pattern for names that contain a caller's text; empty when absent. -/
def containsPattern (e : Engine) (nameFilter : Value) : Outcome Value := do
  if !nameFilter.isTruthy then return .text ""
  let folded ← e.foldValue nameFilter
  return .text ("%" ++ folded.plain ++ "%")

/-- A fragment that is added only when its value is present. -/
structure Filter where
  fragment : Template
  value : Value

/-- The fragments of the filters that are present, with their values. Markers are
    numbered by the values that are bound, so a filter that is left out leaves out
    its marker and its value alike. -/
def applyFilters (bound : List Value) : List Filter → List Piece × List Value
  | [] => ([], bound)
  | f :: rest =>
    if f.fragment.isEmpty || !f.value.isTruthy then applyFilters bound rest
    else
      let here := f.fragment.withMarker (bound.length + 1)
      let (pieces, args) := applyFilters (bound ++ [f.value]) rest
      (here ++ pieces, args)

/-- A listing: its query, the filters that are present, and a window of it. -/
def listing (e : Engine) (op : Operation) (base : Template) (filters : List Filter)
    (after : Template) (order : String) (w : Window) : Built := do
  let (filtered, args) := applyFilters [] filters
  w.check
  query op (base ++ filtered ++ after ++ .sql " " :: w.clause e [.sql order]) args

/-- A query on an object with this name. Engines without schemas bind the name only. -/
def objectLookup (e : Engine) (op : Operation) (t : Template) (schema name : Value)
    (kind : String) : Built := do
  let name ← Identifier.require name kind
  if t.isEmpty then unsupported
  else if !e.supports .schemas then query op t [.text name]
  else do
    let schema ← schemaValue e schema
    query op t [schema, .text (e.fold name)]

/-- A query on a table with this name. Engines without schemas cannot bind it and
    embed the quoted name. -/
def tableLookup (e : Engine) (op : Operation) (t : Template) (table schema : Value) : Built := do
  let name ← Identifier.require table "table"
  if t.isEmpty then unsupported
  else if !e.supports .schemas then
    query op (t.fill fun | .table => [.name name] | s => [.slot s]) []
  else do
    let schema ← schemaValue e schema
    query op t [schema, .text (e.fold name)]

/-- The tables, page by page. -/
def listTables (e : Engine) (schema nameFilter : Value) (w : Window) : Built := do
  let queries := e.rules.tables
  let schema ← schemaValue e schema
  let pattern ← containsPattern e nameFilter
  listing e .listTables queries.listing
    [⟨queries.schemaFilter, schema⟩, ⟨queries.nameFilter, pattern⟩] [] queries.order w

/-- A short description of the columns of a table. -/
def describeTable (e : Engine) (table schema : Value) : Built :=
  tableLookup e .describeTable e.rules.tables.summary table schema

/-- Whether a table exists. This is a plain catalogue query on every engine. -/
def tableExists (e : Engine) (table schema : Value) : Built :=
  objectLookup e .tableExists e.rules.tables.existence schema table "table"

/-- The columns of a table. -/
def getColumns (e : Engine) (table schema : Value) : Built :=
  tableLookup e .getColumns e.rules.tables.columns table schema

/-- The columns of a table with everything that is known about them. -/
def getTableSchemaFull (e : Engine) (table schema : Value) : Built :=
  tableLookup e .getTableSchemaFull e.rules.tables.fullColumns table schema

/-- The primary key of a table. -/
def getPrimaryKey (e : Engine) (table schema : Value) : Built :=
  tableLookup e .getPrimaryKey e.rules.tables.primaryKey table schema

/-- The indexes of a table. -/
def getIndexes (e : Engine) (table schema : Value) : Built :=
  tableLookup e .getIndexes e.rules.tables.indexes table schema

/-- The foreign keys of a table. -/
def getForeignKeys (e : Engine) (table schema : Value) : Built :=
  tableLookup e .getForeignKeys e.rules.tables.foreignKeys table schema

/-- The stored procedures, page by page. -/
def listProcedures (e : Engine) (schema nameFilter : Value) (w : Window) : Built := do
  let queries := e.rules.procedures
  if !e.supports .procedures || queries.listing.isEmpty then unsupported
  else do
    let schema ← schemaValue e schema
    let pattern ← containsPattern e nameFilter
    listing e .listProcedures queries.listing
      [⟨queries.schemaFilter, schema⟩, ⟨queries.nameFilter, pattern⟩] [] queries.order w

/-- The source of a stored procedure. -/
def getProcedureCode (e : Engine) (name schema : Value) : Built :=
  if !e.supports .procedures then unsupported
  else objectLookup e .getProcedureCode e.rules.procedures.code schema name "procedure"

/-- The declared parameters of a stored procedure. -/
def getProcedureParameters (e : Engine) (name schema : Value) : Built :=
  if !e.supports .procedures then unsupported
  else objectLookup e .getProcedureParameters e.rules.procedures.parameters schema name
    "procedure"

/-- The restriction of a listing to one kind of function. -/
def functionFilter (e : Engine) (kind : String) : Template :=
  if kind = "scalar" then e.rules.functions.scalarOnly
  else if kind = "table" then e.rules.functions.tableOnly
  else e.rules.functions.everyKind

/-- The kinds of functions that a listing may be restricted to. -/
def functionKinds : List String := ["scalar", "table", "all"]

/-- The kind of function that a caller asks for, all when absent. -/
def functionKind (v : Value) : Outcome String := do
  if !v.isTruthy then return "all"
  match v with
  | .text s =>
    let kind := Text.lowercase s
    if functionKinds.contains kind then return kind else refuse (.input .functionType)
  | .bytes .view _ => .error (.misuse .notText)
  | .bytes _ _ => refuse (.input .functionType)
  | _ => .error (.misuse .notText)

/-- The functions, page by page. -/
def listFunctions (e : Engine) (schema nameFilter kind : Value) (w : Window) : Built := do
  let kind ← functionKind kind
  let queries := e.rules.functions
  if !e.supports .functions || queries.listing.isEmpty then unsupported
  else do
    let schema ← schemaValue e schema
    let pattern ← containsPattern e nameFilter
    listing e .listFunctions (queries.listing ++ functionFilter e kind)
      [⟨queries.schemaFilter, schema⟩, ⟨queries.nameFilter, pattern⟩] [] queries.order w

/-- The source of a function. -/
def getFunctionCode (e : Engine) (name schema : Value) : Built :=
  if !e.supports .functions then unsupported
  else objectLookup e .getFunctionCode e.rules.functions.code schema name "function"

/-- The views, page by page. -/
def listViews (e : Engine) (schema nameFilter : Value) (w : Window) : Built := do
  let queries := e.rules.views
  if !e.supports .views || queries.listing.isEmpty then unsupported
  else do
    let schema ← schemaValue e schema
    let pattern ← containsPattern e nameFilter
    listing e .listViews queries.listing
      [⟨queries.schemaFilter, schema⟩, ⟨queries.nameFilter, pattern⟩] [] queries.order w

/-- The definition of a view. -/
def getViewDefinition (e : Engine) (name schema : Value) : Built :=
  objectLookup e .getViewDefinition e.rules.views.definition schema name "view"

/-- The triggers, page by page, those of one table or without the disabled ones when
    the caller says so. -/
def listTriggers (e : Engine) (schema table nameFilter includeDisabled : Value) (w : Window) :
    Built := do
  let queries := e.rules.triggers
  if !e.supports .triggers || queries.listing.isEmpty then unsupported
  else do
    let table ← if table.isTruthy then
        (Identifier.require table "table").map fun name => Value.text (e.fold name)
      else pure (Value.text "")
    let schema ← schemaValue e schema
    let pattern ← containsPattern e nameFilter
    listing e .listTriggers queries.listing
      [⟨queries.schemaFilter, schema⟩, ⟨queries.tableFilter, table⟩, ⟨queries.nameFilter, pattern⟩]
      (if includeDisabled.isTruthy then [] else queries.enabledOnly) queries.order w

/-- The source of a trigger. -/
def getTriggerCode (e : Engine) (name schema : Value) : Built :=
  objectLookup e .getTriggerCode e.rules.triggers.code schema name "trigger"

/-- The version of the server. -/
def databaseVersion (e : Engine) : Built :=
  query .databaseVersion e.rules.server.version []

/-- The settings of the database. -/
def databaseDetails (e : Engine) : Built :=
  query .databaseDetails e.rules.server.details []

/-- How many objects of each kind there are. -/
def objectCounts (e : Engine) : Built :=
  query .objectCounts e.rules.server.objectCounts []

/-- The schemas of the database. -/
def listSchemas (e : Engine) : Built :=
  query .listSchemas e.rules.server.schemas []

/-- The schema that names without one belong to. -/
def currentSchema (e : Engine) : Built :=
  query .currentSchema [.sql (e.scalarSelect e.rules.currentSchema)] []

/-- The items of a value that is gone through one by one. -/
def items : Value → Outcome (List Value)
  | .list vs => .ok vs
  | .text s => .ok (s.toList.map fun c => .text c.toString)
  | .bytes _ data => .ok (data.map fun b => .int b.toNat)
  | .map entries => .ok (entries.map (·.1))
  | _ => .error (.misuse .wrongKind)

/-- The items of a value, none when it is absent. -/
def itemsOrNone (v : Value) : Outcome (List Value) :=
  if v.isTruthy then items v else .ok []

/-- The catalogue codes of object types, each once, in the order in which they are
    first named. Types that the engine does not know are left out. -/
def typeCodes (known : List (String × String)) (types : List Value) : List String :=
  types.foldl (fun codes t =>
    match known.lookup (Text.lowercase t.plain) with
    | some code => if codes.contains code then codes else codes ++ [code]
    | none => codes) []

/-- The restriction of a search to object types. The codes come from the engine's
    rules, so no text of a caller is in it. -/
def typeFilter (column : String) (codes : List String) : List Piece :=
  if codes.isEmpty then []
  else
    let quoted := codes.map fun code => "'" ++ code ++ "'"
    [.sql (" AND " ++ column ++ " IN (" ++ ", ".intercalate quoted ++ ")")]

/-- The objects whose name holds a caller's text, or whose definition does. Where
    markers have no numbers the text is bound once for each of its markers. -/
def searchObjects (e : Engine) (term inCode types : Value) : Built := do
  if !term.isTruthy then refuse (.input .searchTerm)
  let search := e.rules.search
  let template := e.rules.server.search
  if template.isEmpty then unsupported
  else do
    let named ← itemsOrNone types
    let selected := typeCodes search.typeCodes named
    let codes :=
      if selected.isEmpty && search.allTypesByDefault then search.typeCodes.map (·.2)
      else selected
    let codeSearch := if inCode.isTruthy then search.codeClause else []
    let bound ← e.foldValue term
    let args := if !codeSearch.isEmpty && e.rules.markers = .question then [bound, bound]
      else [bound]
    let content : Slot → List Piece
      | .typeFilter => typeFilter search.typeColumn codes
      | .codeSearch => codeSearch
      | s => [.slot s]
    query .searchObjects (template.fill content) args

/-- What to select from one table. The clause that filters the rows is given as
    pieces, whose arguments the caller binds. -/
structure Selection where
  table : Value
  schema : Value := .text ""
  columns : Value := .list []
  filter : List Piece := []
  orderBy : Value := .text ""
  direction : String := "ASC"
  window : Window := .ofRows

/-- The direction of an order, ascending when absent. -/
def orderDirection (v : Value) : Outcome String := do
  if !v.isTruthy then return "ASC"
  match v with
  | .text s =>
    let direction := Text.uppercase s
    if direction = "ASC" || direction = "DESC" then return direction
    else refuse (.input (.orderDirection direction))
  | _ => .error (.misuse .notText)

/-- The schema to write before a table, nothing when absent. -/
def checkedSchema (schema : Value) : Outcome String :=
  if schema.isTruthy then Identifier.require schema "schema" else .ok ""

/-- A filter clause behind a blank, nothing when there is none. -/
def filterClause (filter : List Piece) : List Piece :=
  if filter.isEmpty then [] else .sql " " :: filter

/-- A window of the rows of one table. -/
def selectRows (e : Engine) (s : Selection) : Built := do
  let table ← Identifier.require s.table "table"
  let named ← items s.columns
  let columns ← named.mapM fun c => Identifier.require c "column"
  let selected := if columns.isEmpty then [.sql "*"]
    else Engine.commaSeparated (columns.map fun c => [.name c])
  let schema ← checkedSchema s.schema
  let order ← if s.orderBy.isTruthy then
      (Identifier.require s.orderBy "column").map fun c => [.name c, .sql (" " ++ s.direction)]
    else pure []
  s.window.check
  query .selectRows
    (.sql "SELECT " :: selected ++ .sql " FROM " :: e.qualified schema table
      ++ filterClause s.filter ++ .sql " " :: s.window.clause e order) []

/-- How many rows of one table there are. -/
def countRows (e : Engine) (table schema : Value) (filter : List Piece) : Built := do
  let table ← Identifier.require table "table"
  let schema ← checkedSchema schema
  query .countRows
    (.sql "SELECT COUNT(*) FROM " :: e.qualified schema table ++ filterClause filter) []

/-- The arguments of a call from the entries of a map. Every name has to be one. -/
def callArguments (entries : List (Value × Value)) : Outcome CallArguments :=
  entries.mapM fun (k, v) => do
    let name ← Identifier.require k "parameter"
    return (name, v)

/-- The call of a stored procedure. With declared parameters the arguments follow
    their order and have to match them; without, they are taken as they come. -/
def callProcedure (e : Engine) (name schema : Value) (arguments : List (Value × Value))
    (declared : Option (List ParameterInfo)) : Built := do
  if !e.supports .procedures then unsupported
  else do
    let procedure ← Identifier.require name "procedure"
    let schema ← checkedSchema schema
    let given ← callArguments arguments
    let ordered ← match declared with
      | none => pure given
      | some parameters => orderArguments (e.rules.calls = .byName) given parameters
    let marked := ordered.zipIdx.map fun ((name, _), i) => (name, [Piece.marker (i + 1)])
    query .callProcedure (e.call (e.qualified schema procedure) marked) (ordered.map (·.2))

end Build

end SqlCatalog
