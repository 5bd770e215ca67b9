import SqlCatalog.Proofs.Query.ColumnNames
import SqlCatalog.Proofs.Session.Runs
import SqlCatalog.Reader.Rows

/-!
# The Columns of a Page of Rows

A request for the rows of a table names columns in three places: in its filters, in the columns
to select, and in the column to sort by. All of them are looked up before any row is counted,
and what is found is what the queries are made of. The columns themselves are only known on the
way, as the answer of the server or from the cache, so browsing a table is taken apart at this
point (`tableRows_eq`). What comes before settles the columns, and what comes after looks up
nothing more.

Together with what a name means this tells which column is used: the one that is spelled
exactly like the name, unless a later column is spelled like it up to case.

## Main definitions

* `RowsRequest.Chooses`: The columns that a request means.
* `Reader.rowsContext`, `Reader.lookedUp`, `Reader.shownRows`: Browsing a table before, at and
  after the point at which its columns are known.
* `Reader.ListsRows`: A query for a page of rows with given columns.

## Theorems

* `Reader.tableRows_eq`: Browsing a table falls into these parts.
* `Reader.lookedUp_eq_ok_iff`: The columns are looked up as they are meant.
* `Reader.listsRows_of_mem_runs`: The query that lists the rows has the columns that were
  looked up.
* `meant_column_used`: The column that a name means is the one that is used.
-/

namespace SqlCatalog

/-! ### Rows of a table -/

/-- The column that rows are sorted by, empty when no order is asked for. -/
def SortsBy (real : List String) (orderBy : Value) (order : String) : Prop :=
  (orderBy.isTruthy = false ∧ order = "") ∨
    ∃ name, orderBy = .text name ∧ name ≠ "" ∧ Means real name order

/-- The columns that a request for rows selects and the one that it sorts by. -/
structure RowsRequest.Chooses (real : List String) (q : RowsRequest) (selected : List String)
    (order : String) : Prop where
  selects : ∃ named, Build.itemsOrNone q.columns = .ok named ∧
    List.Forall₂ (fun v column => Means real v.plain column) named selected
  sorts : SortsBy real q.orderBy order

/-- The text of the columns to select: all of them when none is named. -/
def selectText (e : Engine) (selected : List String) : String :=
  if selected.isEmpty then "*" else ", ".intercalate (selected.map e.quote)

/-- Columns are looked up one by one. -/
theorem requireAll_eq_ok_iff {real : List String} {named : List Value}
    {selected : List String} :
    (ColumnIndex.ofNames real).requireAll named = .ok selected ↔
      List.Forall₂ (fun v column => Means real v.plain column) named selected := by
  rw [ColumnIndex.requireAll, mapM_eq_ok_iff]
  simp only [ColumnIndex.require_eq_ok_iff]

/-- The column to sort by is looked up if there is one. -/
theorem sortColumn_eq_ok_iff {real : List String} {orderBy : Value} {order : String} :
    Reader.sortColumn (.ofNames real) orderBy = .ok order ↔ SortsBy real orderBy order := by
  unfold Reader.sortColumn SortsBy
  -- Only a text that is not empty is looked up.
  rcases htruthy : orderBy.isTruthy with _ | _
  · constructor
    · exact fun h => .inl ⟨rfl, (Except.ok.inj h).symm⟩
    · rintro (⟨-, rfl⟩ | ⟨name, rfl, hname, -⟩)
      · rfl
      · exact absurd htruthy (Bool.not_eq_false _ ▸ bne_iff_ne.mpr hname)
  · cases orderBy with
    | text name =>
        have hname : name ≠ "" := bne_iff_ne.mp htruthy
        simp [ColumnIndex.require_eq_ok_iff, hname, Value.plain]
    | bytes kind data => cases kind <;> simp [refuse]
    | _ => simp

namespace Reader

/-- What is settled about a table before its columns are looked up: the engine, the schema,
    the page to show, and the columns that the table has. -/
structure RowsContext where
  engine : Engine
  schema : String
  page : Page
  columns : List Value

/-- The part of browsing a table that settles these. -/
def rowsContext (f : Frame) (q : RowsRequest) : Inquiry RowsContext := do
  let e ← f.requireEngine
  let _ ← Identifier.require q.table "table"
  let schema ← f.resolveSchema q.schema
  let page ← f.rowsPage q.pagination
  let columns ← tableColumns f q.table (.text schema)
  return ⟨e, schema, page, columns⟩

/-- The part that shows the rows, when the columns are looked up. -/
def shownRows (b : RowsContext) (q : RowsRequest) (selected : List String) (order : String) :
    Inquiry TableRows := do
  let filters ← Build.itemsOrNone q.filters
  let clause ← whereClause b.engine (filters.map RowFilter.ofValue) b.columns 1
  let within := Value.text b.schema
  let count ← Build.countRows b.engine q.table within clause.pieces
  let counted ← Inquiry.fetch b.engine "counting rows"
    (count.map fun c => { c with args := clause.args })
  let total ← countOf counted
  b.page.window.check
  let direction ← Build.orderDirection q.direction
  let select ← Build.selectRows b.engine ⟨q.table, within, .list (selected.map .text),
    clause.pieces, .text order, direction, b.page.window⟩
  let result ← Inquiry.fetch b.engine "listing rows"
    (select.map fun s => { s with args := clause.args })
  return ⟨result, b.page, total⟩

/-- What happens in between: the columns that the caller names are looked up. -/
def lookedUp (b : RowsContext) (q : RowsRequest) : Outcome (List String × String) := do
  if b.columns.isEmpty then refuse (.input (.notFound "table" q.table.plain))
  let index ← ColumnIndex.ofColumns b.columns
  let named ← Build.itemsOrNone q.columns
  let selected ← index.requireAll named
  let order ← sortColumn index q.orderBy
  return (selected, order)

/-- Browsing a table falls into these parts. -/
theorem tableRows_eq (f : Frame) (q : RowsRequest) :
    tableRows f q =
      (rowsContext f q).bind fun b =>
        (Inquiry.done (lookedUp b q)).bind fun found => shownRows b q found.1 found.2 := by
  unfold tableRows rowsContext lookedUp
  simp only [bind, Inquiry.bind_assoc]
  -- The first part is the same on both sides.
  iterate 5 refine congrArg (Inquiry.bind _) (funext fun _ => ?_)
  change _ = Inquiry.bind (.done (if _ then _ else _)) _
  split
  · rfl
  · simp only [Inquiry.done_bind, Inquiry.bind_assoc]
    rfl

/-- The columns are looked up as they are meant, unless the table has none at all. -/
theorem lookedUp_eq_ok_iff {b : RowsContext} {q : RowsRequest} {real selected : List String}
    {order : String} (hb : b.columns = real.map .text) (hreal : real ≠ []) :
    lookedUp b q = .ok (selected, order) ↔ q.Chooses real selected order := by
  unfold lookedUp
  rw [hb, ColumnIndex.ofColumns_text, if_neg (by simpa using hreal)]
  constructor
  · intro h
    obtain ⟨index, hindex, h⟩ := ok_of_bind h
    obtain rfl := Except.ok.inj hindex
    obtain ⟨named, hnamed, h⟩ := ok_of_bind h
    obtain ⟨found, hfound, h⟩ := ok_of_bind h
    obtain ⟨sorting, hsorting, h⟩ := ok_of_bind h
    obtain ⟨rfl, rfl⟩ := Prod.mk.inj (Except.ok.inj h)
    exact ⟨⟨named, hnamed, requireAll_eq_ok_iff.mp hfound⟩, sortColumn_eq_ok_iff.mp hsorting⟩
  · rintro ⟨⟨named, hnamed, hfound⟩, hsorting⟩
    simp only [bind, Except.bind, hnamed, requireAll_eq_ok_iff.mpr hfound,
      sortColumn_eq_ok_iff.mpr hsorting]
    rfl

/-! ### The text of a page -/

section Text

variable {e : Engine}

/-- Names are what they are required to be. -/
theorem eq_of_mapM_require {names columns : List String} {kind : String}
    (h : (names.map Value.text).mapM (fun c => Identifier.require c kind) = .ok columns) :
    columns = names := by
  rw [mapM_eq_ok_iff, List.forall₂_map_left_iff] at h
  have hsame : List.Forall₂ Eq names columns :=
    h.imp fun name column hname => Value.text.inj (Identifier.isName_of_require hname).1
  rw [List.forall₂_eq_eq_eq] at hsame
  exact hsame.symm

/-- What is selected is written with every column quoted. -/
theorem render_selected (e : Engine) (selected : List String) :
    e.render (if selected.isEmpty then [.sql "*"]
      else Engine.commaSeparated (selected.map fun c => [.name c])) = selectText e selected := by
  unfold selectText
  split
  · exact (e.render_cons _ []).trans String.append_empty
  · rw [Engine.render_commaSeparated, List.map_map]
    refine congrArg _ (List.map_congr_left fun c _ => ?_)
    exact (e.render_cons _ []).trans String.append_empty

/-- The pieces of an order by one column. -/
def sorting (order direction : String) : List Piece :=
  if order = "" then [] else [.name order, .sql (" " ++ direction)]

/-- A window begins with the order, when there is one, whatever engine it is written for. -/
theorem render_window (e : Engine) (w : Window) {order : String} (direction : String)
    (h : order ≠ "") :
    ∃ bounds, e.render (w.clause e (sorting order direction)) =
      "ORDER BY " ++ e.quote order ++ " " ++ direction ++ bounds := by
  obtain ⟨bounds, hbounds⟩ : ∃ bounds, w.clause e (sorting order direction) =
      .sql "ORDER BY " :: sorting order direction ++ bounds := by
    unfold Window.clause Engine.window
    rw [sorting, if_neg h]
    split <;> exact ⟨_, rfl⟩
  refine ⟨e.render bounds, ?_⟩
  rw [hbounds, sorting, if_neg h]
  simp only [List.cons_append, List.nil_append, Engine.render_cons, Engine.renderPiece,
    String.append_assoc]

/-- What a selection is made of. -/
theorem pieces_of_selectRows {table schema : Value} {selected : List String}
    {filter : List Piece} {order direction : String} {w : Window} {query : Query}
    (h : Build.selectRows e ⟨table, schema, .list (selected.map .text), filter, .text order,
      direction, w⟩ = .ok (some query)) :
    ∃ name checked, Identifier.require table "table" = .ok name ∧
      Build.checkedSchema schema = .ok checked ∧
      query.pieces = .sql "SELECT " :: (if selected.isEmpty then [.sql "*"]
          else Engine.commaSeparated (selected.map fun c => [.name c])) ++
        .sql " FROM " :: e.qualified checked name ++ Build.filterClause filter ++
        .sql " " :: w.clause e (sorting order direction) := by
  obtain ⟨name, hname, h⟩ := ok_of_bind h
  obtain ⟨named, hnamed, h⟩ := ok_of_bind h
  obtain rfl := Except.ok.inj hnamed
  obtain ⟨columns, hcolumns, h⟩ := ok_of_bind h
  obtain rfl := eq_of_mapM_require hcolumns
  obtain ⟨checked, hchecked, h⟩ := ok_of_bind h
  refine ⟨name, checked, hname, hchecked, ?_⟩
  dsimp only at h
  split at h
  · rename_i hsorted
    obtain ⟨order', horder, h⟩ := ok_of_bind h
    obtain ⟨_, -, h⟩ := ok_of_bind h
    -- The column is the one that was asked for, and it is a name.
    obtain ⟨column, hcolumn, rfl⟩ := map_eq_ok_iff.mp horder
    obtain rfl := Value.text.inj (Identifier.isName_of_require hcolumn).1
    rw [eq_of_query h, sorting, if_neg (bne_iff_ne.mp hsorted)]
  · rename_i hunsorted
    obtain ⟨order', horder, h⟩ := ok_of_bind h
    obtain rfl := Except.ok.inj horder
    obtain ⟨_, -, h⟩ := ok_of_bind h
    have hempty : order = "" := Decidable.not_not.mp fun hne => hunsorted (bne_iff_ne.mpr hne)
    rw [eq_of_query h, sorting, if_pos hempty]

/-- The text of a selection: the columns to select and the one to sort by are quoted. -/
theorem sql_of_selectRows {table schema : Value} {selected : List String} {filter : List Piece}
    {order direction : String} {w : Window} {query : Query}
    (h : Build.selectRows e ⟨table, schema, .list (selected.map .text), filter, .text order,
      direction, w⟩ = .ok (some query)) :
    ∃ name checked, Identifier.require table "table" = .ok name ∧
      Build.checkedSchema schema = .ok checked ∧
      query.sql e = "SELECT " ++ selectText e selected ++ " FROM " ++
        e.render (e.qualified checked name) ++ e.render (Build.filterClause filter) ++ " " ++
        e.render (w.clause e (sorting order direction)) := by
  obtain ⟨name, checked, hname, hchecked, hpieces⟩ := pieces_of_selectRows h
  refine ⟨name, checked, hname, hchecked, ?_⟩
  rw [Query.sql, hpieces]
  simp only [Engine.render_append, Engine.render_cons, render_selected, Engine.renderPiece,
    String.append_assoc]

end Text

/-! ### The queries of a page -/

section Queries

variable {σ : Type} [Server σ]

/-- A query for a page of rows, with the columns to select and the one to sort by quoted as
    they are given, and the clause of the filters before the order. -/
def ListsRows (b : RowsContext) (q : RowsRequest) (selected : List String) (order : String)
    (request : Request) : Prop :=
  ∃ filters clause table schema direction window,
    Build.itemsOrNone q.filters = .ok filters ∧
    whereClause b.engine (filters.map RowFilter.ofValue) b.columns 1 = .ok clause ∧
    Identifier.require q.table "table" = .ok table ∧
    Build.checkedSchema (.text b.schema) = .ok schema ∧
    Build.orderDirection q.direction = .ok direction ∧
    request.args = clause.args ∧
    request.sql = "SELECT " ++ selectText b.engine selected ++ " FROM " ++
      b.engine.render (b.engine.qualified schema table) ++
      b.engine.render (Build.filterClause clause.pieces) ++ " " ++ window ∧
    (order = "" → window = b.engine.render (b.page.window.clause b.engine [])) ∧
    (order ≠ "" → ∃ bounds,
      window = "ORDER BY " ++ b.engine.quote order ++ " " ++ direction ++ bounds)

/-- A query on the rows counts them or lists them. Both are built with the clause of the filters,
    and both are run with its arguments. -/
theorem shownRows_cases {b : RowsContext} {q : RowsRequest} {selected : List String}
    {order : String} {s : Session σ} {r : Run σ}
    (h : r ∈ (shownRows b q selected order).runs s) :
    ∃ filters clause count,
      Build.itemsOrNone q.filters = .ok filters ∧
      whereClause b.engine (filters.map RowFilter.ofValue) b.columns 1 = .ok clause ∧
      Build.countRows b.engine q.table (.text b.schema) clause.pieces = .ok count ∧
      ((∃ query, count = some query ∧
          r.request = ⟨query.sql b.engine, clause.args, "counting rows", none⟩) ∨
        ∃ direction query, Build.orderDirection q.direction = .ok direction ∧
          Build.selectRows b.engine ⟨q.table, .text b.schema, .list (selected.map .text),
            clause.pieces, .text order, direction, b.page.window⟩ = .ok (some query) ∧
          r.request = ⟨query.sql b.engine, clause.args, "listing rows", none⟩) := by
  obtain ⟨filters, hfilters, h⟩ := Inquiry.mem_runs_done_bind h
  obtain ⟨clause, hclause, h⟩ := Inquiry.mem_runs_done_bind h
  obtain ⟨count, hcount, h⟩ := Inquiry.mem_runs_done_bind h
  refine ⟨filters, clause, count, hfilters, hclause, hcount, ?_⟩
  rcases Inquiry.mem_runs_fetch_bind h with ⟨query, hquery, hrequest⟩ | ⟨counted, t, h⟩
  · obtain ⟨built, rfl, rfl⟩ := Option.map_eq_some_iff.mp hquery
    exact .inl ⟨built, rfl, hrequest⟩
  obtain ⟨total, -, h⟩ := Inquiry.mem_runs_done_bind h
  obtain ⟨_, -, h⟩ := Inquiry.mem_runs_done_bind h
  obtain ⟨direction, hdirection, h⟩ := Inquiry.mem_runs_done_bind h
  obtain ⟨select, hselect, h⟩ := Inquiry.mem_runs_done_bind h
  rcases Inquiry.mem_runs_fetch_bind h with ⟨query, hquery, hrequest⟩ | ⟨rows, t, h⟩
  · obtain ⟨built, rfl, rfl⟩ := Option.map_eq_some_iff.mp hquery
    exact .inr ⟨direction, built, hdirection, hselect, hrequest⟩
  · exact absurd h List.not_mem_nil

/-- The query that lists the rows has the columns that were looked up. -/
theorem listsRows_of_mem_runs {b : RowsContext} {q : RowsRequest} {selected : List String}
    {order : String} {s : Session σ} {r : Run σ}
    (h : r ∈ (shownRows b q selected order).runs s)
    (hlisting : r.request.operation = "listing rows") :
    ListsRows b q selected order r.request := by
  obtain ⟨filters, clause, count, hfilters, hclause, -,
    ⟨query, -, hrequest⟩ | ⟨direction, query, hdirection, hselect, hrequest⟩⟩ := shownRows_cases h
  · rw [hrequest] at hlisting
    exact absurd hlisting (by simp)
  · obtain ⟨table, schema, htable, hschema, htext⟩ := sql_of_selectRows hselect
    refine ⟨filters, clause, table, schema, direction, _, hfilters, hclause, htable, hschema,
      hdirection, by rw [hrequest], hrequest ▸ htext, fun hnone => ?_,
      render_window b.engine b.page.window direction⟩
    rw [sorting, if_pos hnone]

/-- Browsing a table whose columns are known goes on with the columns that are meant. -/
theorem tableRows_of_chooses {f : Frame} {q : RowsRequest} {b : RowsContext} {s t : Session σ}
    {real selected : List String} {order : String}
    (hknown : (rowsContext f q).exec s = (.ok b, t)) (hb : b.columns = real.map .text)
    (hreal : real ≠ []) (h : q.Chooses real selected order) :
    (tableRows f q).exec s = (shownRows b q selected order).exec t ∧
      (tableRows f q).runs s =
        (rowsContext f q).runs s ++ (shownRows b q selected order).runs t := by
  have hfound := (lookedUp_eq_ok_iff hb hreal).mpr h
  rw [tableRows_eq, Inquiry.exec_bind, Inquiry.runs_bind, hknown]
  dsimp only
  rw [hfound]
  exact ⟨rfl, rfl⟩

/-- Otherwise it fails before any row is counted. -/
theorem tableRows_of_not_chooses {f : Frame} {q : RowsRequest} {b : RowsContext}
    {s t : Session σ} {real : List String}
    (hknown : (rowsContext f q).exec s = (.ok b, t)) (hb : b.columns = real.map .text)
    (hreal : real ≠ []) (h : ∀ selected order, ¬q.Chooses real selected order) :
    ((tableRows f q).exec s).1.isOk = false ∧
      (tableRows f q).runs s = (rowsContext f q).runs s := by
  rw [tableRows_eq, Inquiry.exec_bind, Inquiry.runs_bind, hknown]
  dsimp only
  rcases hfound : lookedUp b q with failure | ⟨selected, order⟩
  · exact ⟨rfl, List.append_nil _⟩
  · exact absurd ((lookedUp_eq_ok_iff hb hreal).mp hfound) (h selected order)

end Queries

end Reader

/-- A request has a choice if every column that it names is one of the table up to case. -/
theorem RowsRequest.exists_chooses {real : List String} {q : RowsRequest} {named : List Value}
    (hitems : Build.itemsOrNone q.columns = .ok named)
    (hnamed : ∀ v ∈ named, IsNamed real v.plain)
    (horder : q.orderBy.isTruthy = false ∨ ∃ name, q.orderBy = .text name ∧ IsNamed real name) :
    ∃ selected order, q.Chooses real selected order := by
  obtain ⟨selected, hselected⟩ := exists_forall₂_means hnamed
  have hsorts : ∃ order, SortsBy real q.orderBy order := by
    rcases hfalsy : q.orderBy.isTruthy with _ | _
    · exact ⟨"", .inl ⟨hfalsy, rfl⟩⟩
    · obtain ⟨name, hname, hmeant⟩ := horder.resolve_left (by simp [hfalsy])
      obtain ⟨order, horder⟩ := Means.exists_iff.mpr hmeant
      rw [hname] at hfalsy
      exact ⟨order, .inr ⟨name, hname, bne_iff_ne.mp hfalsy, horder⟩⟩
  obtain ⟨order, horder⟩ := hsorts
  exact ⟨selected, order, ⟨named, hitems, hselected⟩, horder⟩

/-- The column that a name means is the one that is used. A column is itself meant by its name
    unless a later one is spelled like it up to case, and then the last of these is. Filters
    whose columns are all named make the clause that is on the columns they mean, unless one
    of them has no value to bind, and no other filters make a clause. Browsing a table goes
    on with the columns that are meant as soon as the columns are known, selects them and
    sorts by the one that is meant, or is refused when a name means nothing. -/
theorem meant_column_used {real : List String} (hdistinct : real.Nodup) :
    (∀ before name after, real = before ++ name :: after →
      ∃ column, Means real name column ∧
        (column = name ↔ ∀ other ∈ after, Text.lowercase other ≠ Text.lowercase name)) ∧
    (∀ (e : Engine) (filters : List RowFilter) (start : Int),
      (∀ f ∈ filters, IsNamed real f.column.plain) →
      ∃ columns,
        List.Forall₂ (fun f column => Means real f.column.plain column) filters columns ∧
        (whereClause e (filters.map .ok) (real.map .text) start).map
            (fun clause => (e.render clause.pieces, clause.args)) =
          (filters.mapM RowFilter.arguments).map fun bound =>
            (clauseText e "WHERE " start (filters.zip columns), bound.flatten)) ∧
    (∀ (e : Engine) (filters : List (Outcome RowFilter)) (start : Int) (clause : WhereClause),
      whereClause e filters (real.map .text) start = .ok clause →
      ∃ found : List RowFilter,
        filters = found.map .ok ∧ ∀ f ∈ found, IsNamed real f.column.plain) ∧
    ∀ (σ : Type) [Server σ] (s t : Session σ) (f : Frame) (q : RowsRequest)
      (b : Reader.RowsContext),
      (Reader.rowsContext f q).exec s = (.ok b, t) → b.columns = real.map .text → real ≠ [] →
      (∀ named, Build.itemsOrNone q.columns = .ok named →
        (∀ v ∈ named, IsNamed real v.plain) →
        (q.orderBy.isTruthy = false ∨ ∃ name, q.orderBy = .text name ∧ IsNamed real name) →
        ∃ selected order, q.Chooses real selected order) ∧
      (∀ selected order, q.Chooses real selected order →
        (Reader.tableRows f q).exec s = (Reader.shownRows b q selected order).exec t ∧
        (Reader.tableRows f q).runs s =
          (Reader.rowsContext f q).runs s ++ (Reader.shownRows b q selected order).runs t ∧
        ∀ r ∈ (Reader.shownRows b q selected order).runs t,
          r.request.operation = "listing rows" →
          Reader.ListsRows b q selected order r.request) ∧
      ((∀ selected order, ¬q.Chooses real selected order) →
        ((Reader.tableRows f q).exec s).1.isOk = false ∧
        (Reader.tableRows f q).runs s = (Reader.rowsContext f q).runs s) := by
  refine ⟨?_, ?_, ?_, ?_⟩
  · intro before name after hreal
    have hnamed : IsNamed real name :=
      ⟨name, hreal ▸ List.mem_append_right before List.mem_cons_self, rfl⟩
    obtain ⟨column, hmeans⟩ := Means.exists_iff.mpr hnamed
    exact ⟨column, hmeans, hmeans.eq_iff hdistinct hreal⟩
  · intro e filters start hnamed
    obtain ⟨columns, hcolumns⟩ := exists_forall₂_means hnamed
    exact ⟨columns, hcolumns, whereClause_of_means hcolumns start⟩
  · exact fun e filters start clause => isNamed_of_whereClause
  · intro σ _ s t f q b hknown hb hreal
    refine ⟨fun named => RowsRequest.exists_chooses, fun selected order hchooses => ?_, ?_⟩
    · obtain ⟨hexec, hruns⟩ := Reader.tableRows_of_chooses hknown hb hreal hchooses
      exact ⟨hexec, hruns, fun r => Reader.listsRows_of_mem_runs⟩
    · exact Reader.tableRows_of_not_chooses hknown hb hreal

/-- The columns of a table, two of which have one lower-case name. -/
def twins : List String := ["id", "Name", "ID"]

/-- A session that knows the columns of the table. -/
def knowingTwins : Session Script where
  context := {
    engine := some .postgres
    connection := some "main"
    cache := { entries := [("postgres:public:t", twins.map .text)] } }
  server := { queues := [("main", [.reply { result := {
    columns := ["count"]
    rows := [[.int 0]] } }])] }

/-- A request for the first of the twins where it is null, in the order of the other column. -/
def twinRequest : RowsRequest where
  table := .text "t"
  schema := .null
  filters := .list [.map [(.text "column", .text "id"), (.text "operator", .text "is_null")]]
  columns := .list [.text "id"]
  orderBy := .text "name"
  direction := .null
  pagination := .null

/-- The column that has no twin is meant by its name, and the rows are listed with the columns
    that the request means. -/
theorem meant_column_used_twins :
    (∃ column, Means twins "Name" column ∧ column = "Name") ∧
    ∃ b selected order, b.columns = twins.map .text ∧
      twinRequest.Chooses twins selected order ∧
      ∃ r ∈ (Reader.tableRows knowingTwins.frame twinRequest).runs knowingTwins,
        Reader.ListsRows b twinRequest selected order r.request := by
  obtain ⟨hself, -, -, hrows⟩ := meant_column_used (show twins.Nodup by decide)
  have hname : Text.lowercase "ID" ≠ Text.lowercase "Name" := by decide +kernel
  obtain ⟨column, hmeans, hcolumn⟩ := hself ["id"] "Name" ["ID"] rfl
  refine ⟨⟨column, hmeans, hcolumn.mpr (by simpa using hname)⟩, ?_⟩
  obtain ⟨b, t, hknown, hb⟩ : ∃ b t,
      (Reader.rowsContext knowingTwins.frame twinRequest).exec knowingTwins = (.ok b, t) ∧
        b.columns = twins.map .text := ⟨_, _, rfl, rfl⟩
  have hfirst : (Reader.rowsContext knowingTwins.frame twinRequest).runs knowingTwins = [] := rfl
  obtain ⟨hexists, hchosen, -⟩ := hrows _ _ _ _ _ _ hknown hb (by decide)
  have hid : IsNamed twins "id" := ⟨"id", List.mem_cons_self, rfl⟩
  have hsort : IsNamed twins "name" := ⟨"Name", by decide, by decide +kernel⟩
  obtain ⟨selected, order, hchooses⟩ := hexists [.text "id"] rfl
    (fun v hv => List.mem_singleton.mp hv ▸ hid) (.inr ⟨"name", rfl, hsort⟩)
  obtain ⟨-, hruns, hlists⟩ := hchosen selected order hchooses
  rw [hfirst, List.nil_append] at hruns
  have hoperations : ((Reader.tableRows knowingTwins.frame twinRequest).runs knowingTwins).map
      (·.request.operation) = ["counting rows", "listing rows"] := by decide +kernel
  obtain ⟨r, hr, hlisting⟩ := List.mem_map.mp
    (hoperations ▸ (by simp : "listing rows" ∈ ["counting rows", "listing rows"]))
  exact ⟨b, selected, order, hb, hchooses, r, hr, hlists r (hruns ▸ hr) hlisting⟩

/-- The first of the twins is spelled exactly, and the second one is used in its place, both in
    a filter on it and to list it. -/
theorem first_twin_is_not_used :
    twins.Nodup ∧ "id" ∈ twins ∧ Engine.postgres.quote "id" = "\"id\"" ∧
      (whereClause .postgres [.ok ⟨.text "id", .eq, .int 1⟩] (twins.map .text) 1).map
          (fun clause => Engine.postgres.render clause.pieces) = .ok "WHERE \"ID\" = $1" ∧
      ((Reader.tableRows knowingTwins.frame twinRequest).runs knowingTwins).map
          (·.request.sql) = [
        "SELECT COUNT(*) FROM \"public\".\"t\" WHERE \"ID\" IS NULL",
        "SELECT \"ID\" FROM \"public\".\"t\" WHERE \"ID\" IS NULL " ++
          "ORDER BY \"Name\" ASC LIMIT 50 OFFSET 0"] :=
  ⟨by decide, List.mem_cons_self, rfl, rfl, by decide +kernel⟩

end SqlCatalog
