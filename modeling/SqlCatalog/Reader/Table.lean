import SqlCatalog.Reader.Basic

/-!
# Tables

What is known about one table: whether it exists, its columns, its keys and its
indexes.

## Main definitions

* `TableSchema`: Everything that is known about the structure of a table.
* `Reader.tableExists`, `Reader.describeTable`, `Reader.tableSchema`,
  `Reader.tableColumns`: The questions.
-/

namespace SqlCatalog

/-- Everything that is known about the structure of a table. -/
structure TableSchema where
  schema : String
  table : Value
  columns : List ColumnInfo
  primaryKey : List Value
  indexes : List IndexInfo
  foreignKeys : List ForeignKeyInfo

/-- The structure of a table as a record of an answer. -/
def TableSchema.record (t : TableSchema) : Record :=
  [("schema", .text t.schema), ("table", t.table),
    ("columns", .list (t.columns.map fun c => Record.value c.record)),
    ("primary_key", .list t.primaryKey),
    ("indexes", .list (t.indexes.map fun i => Record.value i.record)),
    ("foreign_keys", .list (t.foreignKeys.map fun k => Record.value k.record))]

namespace Reader

/-- Whether a table exists. -/
def tableExists (f : Frame) (table schema : Value) : Inquiry Bool := do
  let schema ← f.resolveSchema schema
  let e ← f.requireEngine
  let q ← Build.tableExists e table (.text schema)
  let r ← Inquiry.fetch e "checking table" q
  match r.rows with
  | [] => return false
  | row :: _ => do
    let v ← Catalog.firstCell row
    return v.isTruthy

/-- The columns of a table as the engine summarises them. -/
def describeTable (f : Frame) (table schema : Value) : Inquiry (List Record) := do
  let schema ← f.resolveSchema schema
  let e ← f.requireEngine
  let q ← Build.describeTable e table (.text schema)
  let r ← Inquiry.fetch e "describing table" q
  return r.records

/-- The structure of a table. A table without columns does not exist. -/
def tableSchema (f : Frame) (table schema : Value) : Inquiry TableSchema := do
  let e ← f.requireEngine
  let name ← f.resolveSchema schema
  let within := Value.text name
  let q ← Build.getTableSchemaFull e table within
  let r ← Inquiry.fetch e "getting table schema" q
  let columns ← Catalog.decodeColumns e r.rows
  if columns.isEmpty then refuse (.input (.notFound "table" table.plain))
  let q ← Build.getPrimaryKey e table within
  let keyRows ← Inquiry.fetch e "getting primary key" q
  let q ← Build.getIndexes e table within
  let indexRows ← Inquiry.fetch e "getting indexes" q
  let q ← Build.getForeignKeys e table within
  let foreignRows ← Inquiry.fetch e "getting foreign keys" q
  let primaryKey ← Catalog.decodePrimaryKey e keyRows.rows
  let indexes ← Catalog.decodeIndexes e indexRows.rows
  let foreignKeys ← Catalog.decodeForeignKeys e foreignRows.rows
  return ⟨name, table, columns, primaryKey, indexes, foreignKeys⟩

/-- The names of the columns of a table, in table order. -/
def tableColumns (f : Frame) (table schema : Value) : Inquiry (List Value) := do
  let e ← f.requireEngine
  let schema ← f.resolveSchema schema
  .columns e schema table pure

end Reader

end SqlCatalog
