import SqlCatalog.Log
import SqlCatalog.Query.Build
import SqlCatalog.Value.Equality

/-!
# Row Filters

Conditions on the columns of a table, compiled into one clause. Columns are
looked up among the real columns of the table without regard to case and are
written as the table spells them; values are always bound.

## Main definitions

* `FilterOperator`: The operators, by name.
* `RowFilter`: A condition on one column.
* `RowFilter.ofValue`: A condition from a caller's mapping.
* `ColumnIndex`: The real columns of a table by their lower-case names.
* `whereClause`: The clause of a list of conditions, with its arguments.
-/

namespace SqlCatalog

/-- An operator of a row filter. -/
inductive FilterOperator where
  | eq
  | neq
  | gt
  | gte
  | lt
  | lte
  | contains
  | startsWith
  | endsWith
  | isNull
  | isNotNull
deriving DecidableEq

namespace FilterOperator

/-- All operators. -/
def all : List FilterOperator :=
  [.eq, .neq, .gt, .gte, .lt, .lte, .contains, .startsWith, .endsWith, .isNull, .isNotNull]

/-- The name of an operator. -/
def name : FilterOperator → String
  | .eq => "eq"
  | .neq => "neq"
  | .gt => "gt"
  | .gte => "gte"
  | .lt => "lt"
  | .lte => "lte"
  | .contains => "contains"
  | .startsWith => "starts_with"
  | .endsWith => "ends_with"
  | .isNull => "is_null"
  | .isNotNull => "is_not_null"

/-- The operator that a value names, without regard to case and outer blanks. -/
def parse (v : Value) : Outcome FilterOperator :=
  let key := Text.lowercase (Text.trimmed v.plain)
  match all.find? fun op => op.name == key with
  | some op => .ok op
  | none => refuse (.filter (.unknownOperator v))

/-- The sign of a comparison. -/
def sign? : FilterOperator → Option String
  | .eq => some "="
  | .neq => some "!="
  | .gt => some ">"
  | .gte => some ">="
  | .lt => some "<"
  | .lte => some "<="
  | _ => none

/-- The pattern that a text is looked for with: anything may stand where the text may
    be continued. -/
def pattern : FilterOperator → String → String
  | .contains, s => "%" ++ s ++ "%"
  | .startsWith, s => s ++ "%"
  | .endsWith, s => "%" ++ s
  | _, s => s

end FilterOperator

/-- A condition on one column. -/
structure RowFilter where
  column : Value
  operator : FilterOperator
  value : Value

namespace RowFilter

/-- A condition from a caller's mapping. -/
def ofValue : Value → Outcome RowFilter
  | .map entries => do
    let column := Value.field "column" entries
    if !column.isTruthy then refuse (.filter .noColumn)
    let given := entries.any fun e => e.1.equal (.text "operator")
    let operator ← FilterOperator.parse
      (if given then Value.field "operator" entries else .text "")
    return ⟨column, operator, Value.field "value" entries⟩
  | _ => refuse (.filter .notMapping)

end RowFilter

/-- The real columns of a table, each beside its name in lower case. -/
abbrev ColumnIndex := List (String × String)

namespace ColumnIndex

/-- The entry of a column. Bytes can be a name, but one that no text finds. -/
def entry? : Value → Outcome (Option (String × String))
  | .text s => .ok (some (Text.lowercase s, s))
  | .bytes .fixed _ => .ok none
  | .bytes .growable _ => .error (.misuse .wrongKind)
  | _ => .error (.misuse .notText)

/-- The index of a list of column names. -/
def ofColumns (columns : List Value) : Outcome ColumnIndex := do
  let entries ← columns.mapM entry?
  return entries.filterMap id

/-- The real spelling of a column. Of columns that differ in case only the last one
    is meant. -/
def find? (index : ColumnIndex) (name : String) : Option String :=
  (index.reverse.find? fun c => c.1 == Text.lowercase name).map (·.2)

/-- The real spelling of the column that a value names. -/
def require (index : ColumnIndex) (column : Value) : Outcome String :=
  match index.find? column.plain with
  | some actual => .ok actual
  | none => refuse (.input (.unknownColumn column.plain))

/-- The real spellings of columns. -/
def requireAll (index : ColumnIndex) (columns : List Value) : Outcome (List String) :=
  columns.mapM index.require

end ColumnIndex

/-- A condition as pieces, with the arguments it binds. -/
structure Condition where
  pieces : List Piece
  args : List Value

/-- The condition of a filter, whose marker has the given number if it has one. -/
def condition (e : Engine) (index : ColumnIndex) (marker : Int) (f : RowFilter) :
    Outcome Condition := do
  let column ← index.require f.column
  match f.operator, f.operator.sign? with
  | .isNull, _ => return ⟨[.name column, .sql " IS NULL"], []⟩
  | .isNotNull, _ => return ⟨[.name column, .sql " IS NOT NULL"], []⟩
  | _, some sign =>
    return ⟨[.name column, .sql (" " ++ sign ++ " "), .marker marker], [f.value]⟩
  | op, none =>
    match f.value with
    | .text s =>
      let like := " " ++ e.likeOperator false ++ " "
      return ⟨[.name column, .sql like, .marker marker], [.text (op.pattern s)]⟩
    | _ => refuse (.filter (.needsText op.name))

/-- The conditions of filters in order. Markers are numbered from the arguments that
    the conditions before have bound. -/
def conditions (e : Engine) (index : ColumnIndex) (start : Int) :
    List (Outcome RowFilter) → Outcome (List Condition)
  | [] => .ok []
  | f :: rest => do
    let f ← f
    let c ← condition e index start f
    let more ← conditions e index (start + c.args.length) rest
    return c :: more

/-- Conditions with `AND` between them. -/
def conjunction : List Condition → List Piece
  | [] => []
  | [c] => c.pieces
  | c :: rest => c.pieces ++ .sql " AND " :: conjunction rest

/-- A filter clause with its arguments, and the number of its conditions. -/
structure WhereClause where
  pieces : List Piece
  args : List Value
  size : Nat

namespace WhereClause

/-- What the log says about a clause; nothing when there is none. -/
def log (w : WhereClause) : List LogRecord :=
  if w.size = 0 then []
  else [⟨.filters, .debug, "Built WHERE clause with " ++ toString w.size ++ " condition(s)"⟩]

end WhereClause

/-- The clause of a list of filters on the columns of a table. Each filter is read
    when its turn comes, so the first one that cannot be used ends the work. -/
def whereClause (e : Engine) (filters : List (Outcome RowFilter)) (columns : List Value)
    (start : Int) : Outcome WhereClause := do
  let index ← ColumnIndex.ofColumns columns
  let found ← conditions e index start filters
  return ⟨if found.isEmpty then [] else .sql "WHERE " :: conjunction found,
    found.flatMap (·.args), found.length⟩

end SqlCatalog
