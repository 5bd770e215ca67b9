import SqlCatalog.Gate.Verdict
import SqlCatalog.Reader.Basic

/-!
# Free-form Queries

Queries that a caller wrote. They pass the gate before anything else is looked
at, and no more rows are fetched than the caller and the reader both allow, but
for one, which tells a full answer from one that was cut off.

## Main definitions

* `QueryAnswer`: The rows of a query, and whether there were more.
* `Reader.rowCap`: How many rows to give.
* `Reader.executeQuery`: Running a query.
-/

namespace SqlCatalog

/-- The rows of a query, and whether there were more of them. -/
structure QueryAnswer where
  result : ResultSet
  truncated : Bool

/-- The rows as a record of an answer. -/
def QueryAnswer.record (a : QueryAnswer) : Record :=
  [("columns", .list (a.result.columns.map .text)),
    ("rows", .list (a.result.records.map Record.value)),
    ("row_count", .int a.result.rows.length), ("truncated", .bool a.truncated)]

namespace Reader

/-- How many rows to give: as many as the caller says if that is any, and never more
    than the ceiling. -/
def rowCap (maxRows : Value) (ceiling : Int) : Outcome Int :=
  if !maxRows.isTruthy then .ok (min ResultSet.defaultRows ceiling)
  else match maxRows.whole?, maxRows with
    | some n, _ => .ok (min (if n ≤ 0 then ResultSet.defaultRows else n) ceiling)
    | none, .float x =>
      if x.compareInt? 0 = some .lt then .ok (min ResultSet.defaultRows ceiling)
      else if x.compareInt? ceiling = some .gt then .ok ceiling
      else .error (.misuse .wrongKind)
    | none, _ => .error (.misuse .wrongKind)

/-- Runs a query that a caller wrote. -/
def executeQuery (f : Frame) (sql : String) (maxRows : Value) : Inquiry QueryAnswer := do
  Gate.pass sql.toList
  let cap ← rowCap maxRows f.limits.queryRows
  .run ⟨sql, [], "executing query", some (cap + 1)⟩ fun r =>
    let n : Int := r.rows.length
    return ⟨{ r with rows := firstRows cap r.rows }, cap < n⟩

end Reader

end SqlCatalog
