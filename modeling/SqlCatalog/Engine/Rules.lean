import SqlCatalog.Engine.Basic
import SqlCatalog.Query.Piece

/-!
# Rules of an Engine

Everything in which engines differ, as one record per engine: how markers and
names are written, how a window of rows is cut out, how procedures are called,
and the queries on the engine's catalogue. An empty template means that the
engine has no such query.

## Main definitions

* `TableQueries` … `ServerQueries`: The catalogue queries by kind of object.
* `MarkerStyle`, `WindowStyle`, `CallStyle`, `ConcatStyle`: Ways of writing.
* `SearchRules`: What a search over objects needs to know.
* `Rules`: The record.
-/

namespace SqlCatalog

/-- Queries on tables. -/
structure TableQueries where
  listing : Template := []
  schemaFilter : Template := []
  nameFilter : Template := []
  order : String := ""
  summary : Template := []
  existence : Template := []
  columns : Template := []
  fullColumns : Template := []
  primaryKey : Template := []
  indexes : Template := []
  foreignKeys : Template := []

/-- Queries on stored procedures. -/
structure ProcedureQueries where
  listing : Template := []
  schemaFilter : Template := []
  nameFilter : Template := []
  order : String := ""
  code : Template := []
  parameters : Template := []

/-- Queries on functions, with the restrictions to one kind of function. -/
structure FunctionQueries where
  listing : Template := []
  scalarOnly : Template := []
  tableOnly : Template := []
  everyKind : Template := []
  schemaFilter : Template := []
  nameFilter : Template := []
  order : String := ""
  code : Template := []

/-- Queries on views. -/
structure ViewQueries where
  listing : Template := []
  schemaFilter : Template := []
  nameFilter : Template := []
  order : String := ""
  definition : Template := []

/-- Queries on triggers. -/
structure TriggerQueries where
  listing : Template := []
  schemaFilter : Template := []
  tableFilter : Template := []
  nameFilter : Template := []
  enabledOnly : Template := []
  order : String := ""
  code : Template := []

/-- Queries on the server. -/
structure ServerQueries where
  version : Template := []
  details : Template := []
  objectCounts : Template := []
  schemas : Template := []
  search : Template := []

/-- How the marker of a bound argument is written: `@p1`, `$1`, `:1` or `?`. -/
inductive MarkerStyle where
  | named
  | numbered
  | numeric
  | question
deriving DecidableEq

/-- How a window of rows is cut out: with a limit, or by fetching behind an order,
    for which a neutral one is named. -/
inductive WindowStyle where
  | limit
  | fetch (neutralOrder : String)

/-- How a stored procedure is called: by name of parameter, by position, in a block,
    or not at all. -/
inductive CallStyle where
  | byName
  | byPosition
  | inBlock
  | never
deriving DecidableEq

/-- How texts are joined: by an operator or by a function. -/
inductive ConcatStyle where
  | operator (symbol : String)
  | function (name : String)

/-- What a search over objects needs to know: the codes of object types, the column
    that holds them, the branch that looks into definitions, and whether a search
    without types is restricted to all of them. -/
structure SearchRules where
  typeCodes : List (String × String)
  typeColumn : String
  codeClause : Template := []
  allTypesByDefault : Bool := false

/-- The rules of an engine. -/
structure Rules where
  markers : MarkerStyle
  openQuote : Char
  closeQuote : Char
  foldsNames : Bool := false
  defaultSchema : String := ""
  window : WindowStyle := .limit
  concat : ConcatStyle := .operator " || "
  currentDatabase : String
  currentSchema : String
  selectSuffix : String := ""
  calls : CallStyle := .byPosition
  systemSchemas : List String := []
  lacks : List Feature := [.caselessLike]
  search : SearchRules
  tables : TableQueries
  procedures : ProcedureQueries := {}
  functions : FunctionQueries := {}
  views : ViewQueries
  triggers : TriggerQueries
  server : ServerQueries

end SqlCatalog
