import SqlCatalog.Value.Reading
import SqlCatalog.Text.Blank
import SqlCatalog.Text.Case

/-!
# Catalogue Records

The uniform descriptions of columns, indexes and foreign keys. Engines answer
catalogue queries in rows of their own shapes; these records are what the rows
are decoded into, the same for every engine.

## Main definitions

* `ColumnInfo`, `IndexInfo`, `ForeignKeyInfo`: The records.
* `flag`: A truth value as catalogues write it.
* `optionalText`: A text that may be missing.
-/

namespace SqlCatalog

/-- A column of a table. -/
structure ColumnInfo where
  name : Value
  dataType : Value
  maxLength : Option Int := none
  precision : Option Int := none
  scale : Option Int := none
  isNullable : Bool := true
  default : Option String := none
  isPrimaryKey : Bool := false

/-- An index with its columns in key order. -/
structure IndexInfo where
  name : Value
  indexType : Value := .text ""
  isUnique : Bool := false
  isPrimary : Bool := false
  columns : List Value := []

/-- A foreign key. Its columns and the columns they refer to go side by side. -/
structure ForeignKeyInfo where
  name : Value
  columns : List Value := []
  referencedSchema : Value := .text ""
  referencedTable : Value := .text ""
  referencedColumns : List Value := []

namespace Catalog

/-- The words that catalogues write for true. -/
def trueWords : List String := ["YES", "Y", "TRUE", "1", "UNIQUE"]

/-- A truth value as a catalogue writes it: a word, or any value that is present. -/
def flag : Value → Bool
  | .text s => trueWords.contains (Text.uppercase (Text.trimmed s))
  | v => v.isTruthy

/-- A text that may be missing. Other values are written as text. -/
def optionalText : Value → Option String
  | .null => none
  | v => some v.plain

/-- A value, or an empty text when it is absent. -/
def orEmpty (v : Value) : Value :=
  if v.isTruthy then v else .text ""

end Catalog

namespace ColumnInfo

/-- The column as a record of a result. -/
def record (c : ColumnInfo) : List (String × Value) :=
  let number (n : Option Int) : Value := .ofOption (n.map .int)
  [("name", c.name), ("type", c.dataType), ("max_length", number c.maxLength),
    ("precision", number c.precision), ("scale", number c.scale),
    ("nullable", .bool c.isNullable), ("default", .ofOption (c.default.map .text)),
    ("primary_key", .bool c.isPrimaryKey)]

end ColumnInfo

namespace IndexInfo

/-- The index as a record of a result. -/
def record (i : IndexInfo) : List (String × Value) :=
  [("name", i.name), ("index_type", i.indexType), ("is_unique", .bool i.isUnique),
    ("is_primary", .bool i.isPrimary), ("columns", .list i.columns)]

end IndexInfo

namespace ForeignKeyInfo

/-- The foreign key as a record of a result. -/
def record (k : ForeignKeyInfo) : List (String × Value) :=
  [("name", k.name), ("columns", .list k.columns), ("referenced_schema", k.referencedSchema),
    ("referenced_table", k.referencedTable), ("referenced_columns", .list k.referencedColumns)]

end ForeignKeyInfo

end SqlCatalog
