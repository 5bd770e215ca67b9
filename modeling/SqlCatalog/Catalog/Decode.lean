import SqlCatalog.Catalog.Group
import SqlCatalog.Catalog.Record
import SqlCatalog.Engine.Basic
import SqlCatalog.Query.Parameter
import SqlCatalog.ResultSet

/-!
# Decoding Catalogue Rows

Rows of catalogue queries turned into uniform records. There are two shapes of
every kind of row, that of the information schemas and that of the pragmas of
SQLite, and the engine alone decides which one is read. A row that is too short
for its shape is a misuse.

## Main definitions

* `Catalog.Pragma*`, `Catalog.Schema*`: The shapes of rows.
* `Catalog.decodeColumns`, `Catalog.columnNames`: The columns of a table.
* `Catalog.decodePrimaryKey`: The columns of the primary key, in key order.
* `Catalog.decodeIndexes`, `Catalog.decodeForeignKeys`: Grouped rows.
* `Catalog.decodeParameters`, `Catalog.joinSource`: Parameters and source texts.
-/

namespace SqlCatalog

namespace Catalog

/-- A row too short for its shape. -/
def tooShort {α : Type} : Outcome α := .error (.misuse .wrongKind)

/-- A column in an information schema. -/
structure SchemaColumn where
  name : Value
  dataType : Value
  maxLength : Value
  precision : Value
  scale : Value
  isNullable : Value
  default : Value
  isPrimaryKey : Value

/-- A column in the answer of a pragma; the rank is its place in the primary key,
    counted from one, and zero outside of it. -/
structure PragmaColumn where
  name : Value
  dataType : Value
  notNull : Value
  default : Value
  rank : Value

/-- A column of an index in an information schema. -/
structure SchemaIndex where
  name : Value
  indexType : Value
  isUnique : Value
  column : Value

/-- An index in the answer of a pragma. -/
structure PragmaIndex where
  name : Value
  isUnique : Value
  origin : Value

/-- A column of a foreign key in an information schema. -/
structure SchemaForeignKey where
  name : Value
  column : Value
  referencedSchema : Value
  referencedTable : Value
  referencedColumn : Value

/-- A column of a foreign key in the answer of a pragma, where keys have numbers
    instead of names. -/
structure PragmaForeignKey where
  number : Value
  table : Value
  column : Value
  referencedColumn : Value

namespace SchemaColumn

/-- The column in a row of eight cells or more. -/
def ofRow : Row → Outcome SchemaColumn
  | name :: dataType :: maxLength :: precision :: scale :: isNullable :: default :: key :: _ =>
    .ok ⟨name, dataType, maxLength, precision, scale, isNullable, default, key⟩
  | _ => tooShort

/-- The uniform record of the column. -/
def decode (c : SchemaColumn) : Outcome ColumnInfo := do
  let maxLength ← c.maxLength.integerOrNone
  let precision ← c.precision.integerOrNone
  let scale ← c.scale.integerOrNone
  return { name := c.name, dataType := orEmpty c.dataType, maxLength, precision, scale,
           isNullable := flag c.isNullable, default := optionalText c.default,
           isPrimaryKey := flag c.isPrimaryKey }

end SchemaColumn

namespace PragmaColumn

/-- The column in a row of six cells or more. -/
def ofRow : Row → Outcome PragmaColumn
  | _ :: name :: dataType :: notNull :: default :: rank :: _ =>
    .ok ⟨name, dataType, notNull, default, rank⟩
  | _ => tooShort

/-- The uniform record of the column. -/
def decode (c : PragmaColumn) : ColumnInfo :=
  { name := c.name, dataType := orEmpty c.dataType, isNullable := !c.notNull.isTruthy,
    default := optionalText c.default, isPrimaryKey := c.rank.isTruthy }

end PragmaColumn

/-- The index column in a row of four cells or more. -/
def SchemaIndex.ofRow : Row → Outcome SchemaIndex
  | name :: indexType :: isUnique :: column :: _ => .ok ⟨name, indexType, isUnique, column⟩
  | _ => tooShort

/-- The index in a row of five cells or more. -/
def PragmaIndex.ofRow : Row → Outcome PragmaIndex
  | _ :: name :: isUnique :: origin :: _ :: _ => .ok ⟨name, isUnique, origin⟩
  | _ => tooShort

/-- The foreign key column in a row of five cells or more. -/
def SchemaForeignKey.ofRow : Row → Outcome SchemaForeignKey
  | name :: column :: schema :: table :: referenced :: _ =>
    .ok ⟨name, column, schema, table, referenced⟩
  | _ => tooShort

/-- The foreign key column in a row of five cells or more. -/
def PragmaForeignKey.ofRow : Row → Outcome PragmaForeignKey
  | number :: _ :: table :: column :: referenced :: _ => .ok ⟨number, table, column, referenced⟩
  | _ => tooShort

/-- The column that a row describes. -/
def decodeColumn (e : Engine) (row : Row) : Outcome ColumnInfo := do
  if e = .sqlite then
    let c ← PragmaColumn.ofRow row
    return c.decode
  else
    let c ← SchemaColumn.ofRow row
    c.decode

/-- The columns of a table, in table order. -/
def decodeColumns (e : Engine) (rows : List Row) : Outcome (List ColumnInfo) :=
  rows.mapM (decodeColumn e)

/-- The name of the column that a row describes. -/
def columnName (e : Engine) (row : Row) : Outcome Value := do
  if e = .sqlite then
    let c ← PragmaColumn.ofRow row
    return c.name
  else
    let c ← SchemaColumn.ofRow row
    return c.name

/-- The names of the columns of a table, in table order. -/
def columnNames (e : Engine) (rows : List Row) : Outcome (List Value) :=
  rows.mapM (columnName e)

/-- The first cell of a row. -/
def firstCell : Row → Outcome Value
  | v :: _ => .ok v
  | [] => .error (.misuse .noSuchCell)

/-- The first cells of rows. -/
def firstCells (rows : List Row) : Outcome (List Value) :=
  rows.mapM firstCell

/-- Whether every two values can be ordered against each other. -/
def orderable : List Value → Bool
  | [] => true
  | v :: rest => rest.all (fun w => (v.below? w).isSome && (w.below? v).isSome) && orderable rest

/-- Columns by ascending rank. Columns of one rank stay in table order. -/
def byRank (columns : List PragmaColumn) : List PragmaColumn :=
  columns.mergeSort fun c d => !(d.rank.below? c.rank).getD false

/-- The columns of the primary key in key order. A pragma answers with all columns of
    the table, of which those with a rank belong to the key. -/
def decodePrimaryKey (e : Engine) (rows : List Row) : Outcome (List Value) := do
  if e = .sqlite then
    let columns ← rows.mapM PragmaColumn.ofRow
    let members := columns.filter (·.rank.isTruthy)
    if orderable (members.map (·.rank)) then return (byRank members).map (·.name)
    else .error (.misuse .wrongKind)
  else firstCells rows

/-- A key that records can be collected under. -/
def requireKey (v : Value) : Outcome Unit :=
  if v.isKey then .ok () else .error (.misuse .wrongKind)

/-- The index with one more column, unless there is none or it has it already. -/
def addColumn (column : Value) (i : IndexInfo) : IndexInfo :=
  if column.isTruthy && !i.columns.any (·.equal column) then
    { i with columns := i.columns ++ [column] }
  else i

/-- One more row of an index. Type and uniqueness are those of its first row. -/
def addIndexRow (groups : Groups IndexInfo) (r : SchemaIndex) : Outcome (Groups IndexInfo) := do
  requireKey r.name
  let fresh : IndexInfo :=
    { name := r.name, indexType := orEmpty r.indexType, isUnique := flag r.isUnique }
  return groups.update r.name fresh (addColumn r.column)

/-- The type of an index by its origin; an unknown origin is its own type. -/
def indexTypeOf (origin : Value) : Value :=
  match origin with
  | .text "c" => .text "INDEX"
  | .text "u" => .text "UNIQUE"
  | .text "pk" => .text "PRIMARY KEY"
  | v => orEmpty v

/-- One more index of a pragma. A later row of a name replaces the earlier one. -/
def addPragmaIndex (groups : Groups IndexInfo) (r : PragmaIndex) : Outcome (Groups IndexInfo) := do
  requireKey r.origin
  requireKey r.name
  let index : IndexInfo :=
    { name := r.name, indexType := indexTypeOf r.origin, isUnique := r.isUnique.isTruthy,
      isPrimary := r.origin.equal (.text "pk") }
  return groups.update r.name index fun _ => index

/-- The indexes of a table in the order in which they first appear. -/
def decodeIndexes (e : Engine) (rows : List Row) : Outcome (List IndexInfo) := do
  let groups ←
    if e = .sqlite then
      rows.foldlM (fun g row => do let r ← PragmaIndex.ofRow row; addPragmaIndex g r) []
    else rows.foldlM (fun g row => do let r ← SchemaIndex.ofRow row; addIndexRow g r) []
  return groups.records

/-- The foreign key with one more pair of columns. -/
def addPair (column referenced : Value) (k : ForeignKeyInfo) : ForeignKeyInfo :=
  { k with columns := k.columns ++ [column],
           referencedColumns := k.referencedColumns ++ [referenced] }

/-- One more row of a foreign key. Schema and table are those of its first row. -/
def addForeignKeyRow (groups : Groups ForeignKeyInfo) (r : SchemaForeignKey) :
    Outcome (Groups ForeignKeyInfo) := do
  requireKey r.name
  let fresh : ForeignKeyInfo :=
    { name := r.name, referencedSchema := orEmpty r.referencedSchema,
      referencedTable := orEmpty r.referencedTable }
  return groups.update r.name fresh (addPair r.column r.referencedColumn)

/-- One more row of a foreign key of a pragma, which is named after its number. -/
def addPragmaForeignKey (groups : Groups ForeignKeyInfo) (r : PragmaForeignKey) :
    Groups ForeignKeyInfo :=
  let name := Value.text ("fk_" ++ r.number.plain)
  let fresh : ForeignKeyInfo :=
    { name, referencedSchema := .text "main", referencedTable := r.table }
  groups.update name fresh (addPair r.column r.referencedColumn)

/-- The foreign keys of a table in the order in which they first appear. -/
def decodeForeignKeys (e : Engine) (rows : List Row) : Outcome (List ForeignKeyInfo) := do
  let groups ←
    if e = .sqlite then
      rows.foldlM (fun g row => do
        let r ← PragmaForeignKey.ofRow row
        return addPragmaForeignKey g r) []
    else rows.foldlM (fun g row => do let r ← SchemaForeignKey.ofRow row; addForeignKeyRow g r) []
  return groups.records

/-- The cell of a row at a position. -/
def cell (row : Row) (i : Nat) : Outcome Value :=
  match row[i]? with
  | some v => .ok v
  | none => .error (.misuse .noSuchCell)

/-- The parameter that a row declares, none for a row without a name. -/
def decodeParameter (row : Row) : Outcome (Option ParameterInfo) := do
  let name ← firstCell row
  if !name.isTruthy then return none
  let typeName ← cell row 1
  let output ← cell row 2
  return some ⟨name, orEmpty typeName, flag output⟩

/-- The declared parameters of a procedure, in order. -/
def decodeParameters (rows : List Row) : Outcome (List ParameterInfo) := do
  let found ← rows.mapM decodeParameter
  return found.filterMap id

/-- A source text that may be kept one line per row. -/
def joinSource (rows : List Row) : String :=
  String.join (rows.filterMap fun
    | [] => none
    | .null :: _ => none
    | v :: _ => some v.plain)

end Catalog

namespace ParameterInfo

/-- The parameter as a record of a result. -/
def record (p : ParameterInfo) : List (String × Value) :=
  [("name", p.name), ("type_name", p.typeName), ("is_output", .bool p.isOutput)]

end ParameterInfo

end SqlCatalog
