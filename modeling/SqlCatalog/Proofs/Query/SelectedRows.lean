import SqlCatalog.Proofs.Query.Rows

/-!
# What a Selection Asks For

A selection of rows comes as values: a schema that may be absent in several ways, an order that may
be absent, columns in whatever holds values. Where it is built, each of them has been found to be a
name or to be absent. What is left is plain data, and the query is this data in writing, one part
after the other.

## Main definitions

* `Selected`: What a selection without filters asks for.
* `Build.Selection.IsPlain`, `Build.Selection.Asks`: A selection without filters, and what it
  asks for.
* `Selected.seenBy`: As much of it as an engine tells apart.
* `Selected.pieces`: What is asked for as the pieces of a query.

## Theorems

* `Build.exists_of_selectRows`: What the query of a selection is made of.
* `Build.pieces_of_isPlain`: A plain selection that is built is what it asks for in writing.
* `Build.Selection.Asks.isValid`: What it asks for is valid.
-/

namespace SqlCatalog

/-- What a selection without filters asks for: rows of a table, some of its columns or all when
    none is named, in the order of one of them in a direction, and a window of the rows. -/
@[ext]
structure Selected where
  table : String
  schema : String
  columns : List String
  order : Option (String × String)
  limit : Int
  offset : Int

/-! ### What a selection asks for -/

namespace Build.Selection

/-- A selection without filters, in one of the directions, with whole numbers for its window. -/
structure IsPlain (s : Build.Selection) : Prop where
  filter : s.filter = []
  direction : ∃ v, Build.orderDirection v = .ok s.direction
  limit : ∃ n, s.window.limit = .int n
  offset : ∃ n, s.window.offset = .int n

/-- What a selection asks for. Its schema and its order may be absent, and everything that is
    named is a valid identifier. -/
structure Asks (s : Build.Selection) (w : Selected) : Prop where
  table : s.table = .text w.table ∧ Identifier.isName w.table.toList = true
  schema : (s.schema.isTruthy = false ∧ w.schema = "") ∨
    (s.schema = .text w.schema ∧ Identifier.isName w.schema.toList = true)
  columns : Build.items s.columns = .ok (w.columns.map .text) ∧
    ∀ c ∈ w.columns, Identifier.isName c.toList = true
  order : (s.orderBy.isTruthy = false ∧ w.order = none) ∨
    ∃ c, s.orderBy = .text c ∧ Identifier.isName c.toList = true ∧ w.order = some (c, s.direction)
  limit : s.window.limit = .int w.limit
  offset : s.window.offset = .int w.offset

end Build.Selection

/-- The spelling by which names are told apart, which is upper case for Oracle. -/
def Engine.spelling (e : Engine) (name : String) : String :=
  if e = .oracle then Text.uppercase name else name

/-- It is the spelling of a quoted name. -/
theorem Engine.spelling_eq_fold (e : Engine) : e.spelling = e.fold := by
  cases e <;> rfl

namespace Selected

/-- As much of what is asked for as an engine tells apart: names as it spells them, and a schema
    only where there are schemas. -/
def seenBy (e : Engine) (w : Selected) : Selected where
  table := e.spelling w.table
  schema := if e.supports .schemas then e.spelling w.schema else ""
  columns := w.columns.map e.spelling
  order := w.order.map fun o => (e.spelling o.1, o.2)
  limit := w.limit
  offset := w.offset

/-! ### In writing -/

/-- The columns that are asked for. -/
def columnPieces (columns : List String) : List Piece :=
  if columns.isEmpty then [.sql "*"]
  else Engine.commaSeparated (columns.map fun c => [.name c])

/-- The order that is asked for. -/
def orderPieces : Option (String × String) → List Piece
  | some (column, direction) => [.name column, .sql (" " ++ direction)]
  | none => []

/-- What is asked for as the pieces of a query. -/
def pieces (e : Engine) (w : Selected) : List Piece :=
  .sql "SELECT " :: (columnPieces w.columns ++ .sql " FROM " :: (e.qualified w.schema w.table ++
    .sql " " :: e.window (toString w.limit) (toString w.offset) (orderPieces w.order)))

/-- An order is by a valid identifier in one of the two directions, where there is one. -/
def IsOrder (order : Option (String × String)) : Prop :=
  ∀ c direction, order = some (c, direction) →
    Identifier.isName c.toList = true ∧ (direction = "ASC" ∨ direction = "DESC")

/-- Everything that is asked for is a valid identifier, and the direction is one of the two. -/
structure IsValid (w : Selected) : Prop where
  table : Identifier.isName w.table.toList = true
  schema : Identifier.IsSchema w.schema
  columns : ∀ c ∈ w.columns, Identifier.isName c.toList = true
  order : IsOrder w.order

end Selected

/-- What a plain selection asks for is valid. -/
theorem Build.Selection.Asks.isValid {s : Build.Selection} {w : Selected} (h : s.Asks w)
    (hs : s.IsPlain) : w.IsValid where
  table := h.table.2
  schema := h.schema.imp (·.2) (·.2)
  columns := h.columns.2
  order := by
    intro c direction hasked
    obtain ⟨v, hdirection⟩ := hs.direction
    rcases h.order with ⟨-, hnone⟩ | ⟨column, -, hname, hsome⟩
    · cases hnone.symm.trans hasked
    · cases hsome.symm.trans hasked
      exact ⟨hname, direction_cases hdirection⟩

namespace Build

variable {e : Engine}

/-- A schema is absent or a name. -/
theorem cases_of_checkedSchema {v : Value} {schema : String} (h : checkedSchema v = .ok schema) :
    (v.isTruthy = false ∧ schema = "") ∨
      (v = .text schema ∧ Identifier.isName schema.toList = true) := by
  unfold checkedSchema at h
  split at h
  · exact .inr (Identifier.isName_of_require h)
  · rename_i hfalsy
    exact .inl ⟨Bool.not_eq_true _ ▸ hfalsy, (Except.ok.inj h).symm⟩

/-- Columns are the names that they are required to be. -/
theorem columns_of_mapM_require {named : List Value} {columns : List String}
    (h : named.mapM (fun c => Identifier.require c "column") = .ok columns) :
    named = columns.map .text ∧ ∀ c ∈ columns, Identifier.isName c.toList = true := by
  constructor
  · have hsame : List.Forall₂ (fun v c => v = Value.text c) named columns :=
      (mapM_eq_ok_iff.mp h).imp fun v c hc => (Identifier.isName_of_require hc).1
    rw [← List.forall₂_eq_eq_eq, List.forall₂_map_right_iff]
    exact hsame
  · intro c hc
    obtain ⟨v, -, hrequire⟩ := exists_of_mapM h c hc
    exact (Identifier.isName_of_require hrequire).2

/-- The order of a selection. -/
def orderOf (v : Value) (direction : String) : Outcome (List Piece) :=
  if v.isTruthy then
    (Identifier.require v "column").map fun c => [.name c, .sql (" " ++ direction)]
  else .ok []

/-- An order is absent or by one column. -/
theorem cases_of_orderOf {v : Value} {direction : String} {order : List Piece}
    (h : orderOf v direction = .ok order) :
    ∃ asked : Option (String × String), order = Selected.orderPieces asked ∧
      ((v.isTruthy = false ∧ asked = none) ∨
        ∃ c, v = .text c ∧ Identifier.isName c.toList = true ∧ asked = some (c, direction)) := by
  unfold orderOf at h
  split at h
  · obtain ⟨c, hrequire, rfl⟩ := map_eq_ok_iff.mp h
    obtain ⟨hc, hname⟩ := Identifier.isName_of_require hrequire
    exact ⟨some (c, direction), rfl, .inr ⟨c, hc, hname, rfl⟩⟩
  · rename_i hfalsy
    exact ⟨none, (Except.ok.inj h).symm, .inl ⟨Bool.not_eq_true _ ▸ hfalsy, rfl⟩⟩

/-- The query of a selection, with the names that passed their checks. -/
theorem exists_of_selectRows {s : Selection} {q : Query} (h : selectRows e s = .ok (some q)) :
    ∃ table named columns schema order, Identifier.require s.table "table" = .ok table ∧
      items s.columns = .ok named ∧
      named.mapM (fun c => Identifier.require c "column") = .ok columns ∧
      checkedSchema s.schema = .ok schema ∧ orderOf s.orderBy s.direction = .ok order ∧
      q = ⟨.selectRows, Piece.sql "SELECT " :: Selected.columnPieces columns ++
        .sql " FROM " :: e.qualified schema table ++ filterClause s.filter ++
          .sql " " :: s.window.clause e order, []⟩ := by
  obtain ⟨table, htable, h⟩ := ok_of_bind h
  obtain ⟨named, hnamed, h⟩ := ok_of_bind h
  obtain ⟨columns, hcolumns, h⟩ := ok_of_bind h
  obtain ⟨schema, hschema, h⟩ := ok_of_bind h
  refine ⟨table, named, columns, schema, ?_⟩
  -- An order that is absent is a branch of its own, which goes on like the other one.
  dsimp only at h
  by_cases hsorted : s.orderBy.isTruthy = true
  · rw [if_pos hsorted] at h
    obtain ⟨order, horder, h⟩ := ok_of_bind h
    obtain ⟨_, -, h⟩ := ok_of_bind h
    exact ⟨order, htable, hnamed, hcolumns, hschema, (if_pos hsorted).trans horder, eq_of_query h⟩
  · rw [if_neg hsorted] at h
    obtain ⟨order, horder, h⟩ := ok_of_bind h
    obtain ⟨_, -, h⟩ := ok_of_bind h
    exact ⟨order, htable, hnamed, hcolumns, hschema, (if_neg hsorted).trans horder, eq_of_query h⟩

/-- A plain selection that is built is what it asks for in writing. -/
theorem pieces_of_isPlain {s : Selection} {q : Query} (hs : s.IsPlain)
    (h : selectRows e s = .ok (some q)) : ∃ w : Selected, s.Asks w ∧ q.pieces = w.pieces e := by
  obtain ⟨limit, hlimit⟩ := hs.limit
  obtain ⟨offset, hoffset⟩ := hs.offset
  obtain ⟨table, named, columns, schema, order, htable, hnamed, hcolumns, hschema, horder, rfl⟩ :=
    exists_of_selectRows h
  obtain ⟨hnames, hvalid⟩ := columns_of_mapM_require hcolumns
  obtain ⟨asked, rfl, hasked⟩ := cases_of_orderOf horder
  refine ⟨⟨table, schema, columns, asked, limit, offset⟩,
    ⟨Identifier.isName_of_require htable, cases_of_checkedSchema hschema,
      ⟨hnames ▸ hnamed, hvalid⟩, hasked, hlimit, hoffset⟩, ?_⟩
  rw [hs.filter]
  simp only [Selected.pieces, filterClause, Window.clause, hlimit, hoffset, List.isEmpty_nil,
    if_true, List.append_nil, List.cons_append, List.append_assoc]
  rfl

end Build

end SqlCatalog
