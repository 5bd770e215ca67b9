import SqlCatalog.Filter
import SqlCatalog.Reader.Table

/-!
# Table Rows

The rows of one table, filtered, ordered and page by page. Every column that the
caller names is looked up among the real columns before any row is counted or
selected, and one clause with one list of arguments serves both queries.

## Main definitions

* `RowsRequest`: What a caller wants to see of a table.
* `TableRows`: A page of rows with the total.
* `Reader.tableRows`: The rows.
-/

namespace SqlCatalog

/-- What a caller wants to see of a table. -/
structure RowsRequest where
  table : Value
  schema : Value
  filters : Value
  columns : Value
  orderBy : Value
  direction : Value
  pagination : Value

/-- A page of the rows of a table, with the number of all rows that the filters leave. -/
structure TableRows where
  result : ResultSet
  page : Page
  total : Int

/-- The rows as a record of an answer. -/
def TableRows.record (t : TableRows) : Record :=
  [("columns", .list (t.result.columns.map .text)),
    ("rows", .list (t.result.records.map Record.value))] ++ t.page.recordOf t.total

namespace Reader

/-- The real spelling of the column to order by, empty when the caller names none. -/
def sortColumn (index : ColumnIndex) (orderBy : Value) : Outcome String :=
  if !orderBy.isTruthy then .ok ""
  else match orderBy with
    | .text _ => index.require orderBy
    | .bytes .fixed _ => refuse (.input (.unknownColumn orderBy.plain))
    | .bytes .growable _ => .error (.misuse .wrongKind)
    | _ => .error (.misuse .notText)

/-- The number of rows that a count came back with, zero when it came back empty. -/
def countOf (r : ResultSet) : Outcome Int :=
  match r.rows with
  | [] => .ok 0
  | row :: _ => do
    let v ← Catalog.firstCell row
    v.integer

/-- A page of the rows of a table. -/
def tableRows (f : Frame) (q : RowsRequest) : Inquiry TableRows := do
  let e ← f.requireEngine
  let _ ← Identifier.require q.table "table"
  let schema ← f.resolveSchema q.schema
  let page ← f.rowsPage q.pagination
  let columns ← tableColumns f q.table (.text schema)
  if columns.isEmpty then refuse (.input (.notFound "table" q.table.plain))
  let index ← ColumnIndex.ofColumns columns
  let named ← Build.itemsOrNone q.columns
  let selected ← index.requireAll named
  let order ← sortColumn index q.orderBy
  let filters ← Build.itemsOrNone q.filters
  let clause ← whereClause e (filters.map RowFilter.ofValue) columns 1
  let within := Value.text schema
  let count ← Build.countRows e q.table within clause.pieces
  let counted ← Inquiry.fetch e "counting rows" (count.map fun c => { c with args := clause.args })
  let total ← countOf counted
  page.window.check
  let direction ← Build.orderDirection q.direction
  let select ← Build.selectRows e ⟨q.table, within, .list (selected.map .text), clause.pieces,
    .text order, direction, page.window⟩
  let result ← Inquiry.fetch e "listing rows" (select.map fun s => { s with args := clause.args })
  return ⟨result, page, total⟩

end Reader

end SqlCatalog
