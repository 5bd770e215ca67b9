import SqlCatalog.Proofs.Pages.Tiling
import SqlCatalog.Proofs.Session.Settling

/-!
# A Page of Rows and Its Total

Browsing a table counts the rows and then lists a window of them. The total would be wrong
without anybody noticing if the two queries were not about the same rows, so what the rows are is
settled once and for both: the table behind its schema, the clause of the filters, and the values
that are bound in it. A plan keeps these together, and both queries are written from it.

A plan is there only when everything that the caller names was looked up, so this is also what
stands between a caller's mistake and a query on the table.

## Main definitions

* `ResultSet.Tells`: The total that a count came back with.
* `RowsPlan`: What is settled about a page of rows before any row is counted.
* `RowsPlan.countRequest`, `RowsPlan.listRequest`: The two queries.
* `RowsPlan.IsFor`: A plan is the one for a request.
* `RowsPlan.CountsAndLists`: The two queries of a plan are run, one after the other.

## Theorems

* `Reader.exists_plan_of_mem_runs`: A query on the rows of a table is one of a plan.
* `Reader.of_gives_shownRows`: The rows that are shown were counted first.
* `total_and_page_of_same_rows`: The total and the page come from the same rows.
-/

namespace SqlCatalog

/-- A page of rows is one of the pages. -/
theorem Frame.one_le_of_rowsPage {f : Frame} {args : Value} {p : Page}
    (h : f.rowsPage args = .ok p) : 1 ≤ p.number ∧ 1 ≤ p.size := by
  obtain ⟨fields, -, h⟩ := ok_of_bind h
  exact Page.of_make h

/-! ### Plans -/

/-- What is settled about a page of rows before any row is counted: where the table is, which
    columns it has and which of them are meant, and the clause of the filters. -/
structure RowsPlan extends Reader.RowsContext where
  table : String
  selected : List String
  order : String
  clause : WhereClause

namespace RowsPlan

/-- Where the rows are and which of them are meant, as both queries have it. -/
def source (p : RowsPlan) : String :=
  " FROM " ++ p.engine.render (p.engine.qualified p.schema p.table) ++
    p.engine.render (Build.filterClause p.clause.pieces)

/-- The query that counts the rows. -/
def countRequest (p : RowsPlan) : Request :=
  ⟨"SELECT COUNT(*)" ++ p.source, p.clause.args, "counting rows", none⟩

/-- The query that lists those of the page. -/
def listRequest (p : RowsPlan) (direction : String) : Request :=
  ⟨"SELECT " ++ selectText p.engine p.selected ++ p.source ++ " " ++
      p.engine.render (p.engine.window (toString p.page.size)
        (toString ((p.page.number - 1) * p.page.size)) (Reader.sorting p.order direction)),
    p.clause.args, "listing rows", none⟩

/-- A plan is the one for a request: the table has columns, and every column that the request
    selects, sorts by or filters on passes its check against them. -/
structure IsFor {σ : Type} [Server σ] (p : RowsPlan) (s : Session σ) (q : RowsRequest) : Prop where
  context : ((Reader.rowsContext s.frame q).exec s).1 = .ok p.toRowsContext
  table : q.table = .text p.table
  page : s.frame.rowsPage q.pagination = .ok p.page
  hasColumns : p.columns ≠ []
  chosen : ∃ index named, ColumnIndex.ofColumns p.columns = .ok index ∧
    Build.itemsOrNone q.columns = .ok named ∧ index.requireAll named = .ok p.selected ∧
    Reader.sortColumn index q.orderBy = .ok p.order
  filtered : ∃ filters, Build.itemsOrNone q.filters = .ok filters ∧
    whereClause p.engine (filters.map RowFilter.ofValue) p.columns 1 = .ok p.clause

/-- The queries of a plan are run one after the other, and both come to a result. -/
def CountsAndLists {σ : Type} [Server σ] (p : RowsPlan) (direction : String) (runs : List (Run σ))
    (counted result : ResultSet) : Prop :=
  ∃ t u : Session σ, runs = [⟨p.countRequest, t⟩, ⟨p.listRequest direction, u⟩] ∧
    t.run p.countRequest = (.ok counted, u) ∧ (u.run (p.listRequest direction)).1 = .ok result

end RowsPlan

/-- The total that a count came back with: the number in its first cell, zero when it came back
    empty. -/
def ResultSet.Tells (r : ResultSet) (total : Int) : Prop :=
  r.rows = [] ∧ total = 0 ∨
    ∃ cell cells more, r.rows = (cell :: cells) :: more ∧ cell.integer = .ok total

namespace Reader

theorem tells_of_countOf {r : ResultSet} {total : Int} (h : countOf r = .ok total) :
    r.Tells total := by
  unfold countOf at h
  split at h
  · rename_i hrows
    exact .inl ⟨hrows, (Except.ok.inj h).symm⟩
  · rename_i row more hrows
    obtain ⟨cell, hcell, h⟩ := ok_of_bind h
    cases row with
    | nil => exact absurd hcell (by simp [Catalog.firstCell])
    | cons first cells =>
        obtain rfl := Except.ok.inj hcell
        exact .inr ⟨first, cells, more, hrows, h⟩

/-! ### The texts of the queries -/

/-- A schema that passes its check is the one that was given. -/
theorem eq_of_checkedSchema {schema checked : String}
    (h : Build.checkedSchema (.text schema) = .ok checked) : checked = schema := by
  unfold Build.checkedSchema at h
  split at h
  · exact (Value.text.inj (Identifier.isName_of_require h).1).symm
  · rename_i hfalsy
    have hempty : schema = "" := by simpa [Value.isTruthy] using hfalsy
    rw [← Except.ok.inj h, hempty]

/-- What a count is made of. -/
theorem sql_of_countRows {e : Engine} {table : Value} {schema : String} {filter : List Piece}
    {query : Query} (h : Build.countRows e table (.text schema) filter = .ok (some query)) :
    ∃ name, table = .text name ∧
      query.sql e = "SELECT COUNT(*)" ++ (" FROM " ++ e.render (e.qualified schema name) ++
        e.render (Build.filterClause filter)) := by
  obtain ⟨name, hname, h⟩ := ok_of_bind h
  obtain ⟨checked, hchecked, h⟩ := ok_of_bind h
  rw [eq_of_checkedSchema hchecked] at h
  refine ⟨name, (Identifier.isName_of_require hname).1, ?_⟩
  have hwords : "SELECT COUNT(*) FROM " = "SELECT COUNT(*)" ++ " FROM " := by decide
  rw [eq_of_query h, Query.sql, Engine.render_append, Engine.render_cons, Engine.renderPiece,
    hwords]
  simp only [String.append_assoc]

/-- The query that counts is the one of the plan. -/
theorem countRequest_eq (p : RowsPlan) (query : Query) {table : Value}
    (htable : table = .text p.table)
    (h : Build.countRows p.engine table (.text p.schema) p.clause.pieces = .ok (some query)) :
    (⟨query.sql p.engine, p.clause.args, "counting rows", none⟩ : Request) = p.countRequest := by
  obtain ⟨name, hname, htext⟩ := sql_of_countRows h
  rw [htable] at hname
  obtain rfl := Value.text.inj hname
  rw [htext]
  rfl

/-- So is the query that lists the rows. -/
theorem listRequest_eq (p : RowsPlan) (query : Query) {table : Value} {direction : String}
    (htable : table = .text p.table)
    (h : Build.selectRows p.engine ⟨table, .text p.schema, .list (p.selected.map .text),
      p.clause.pieces, .text p.order, direction, p.page.window⟩ = .ok (some query)) :
    (⟨query.sql p.engine, p.clause.args, "listing rows", none⟩ : Request) =
      p.listRequest direction := by
  obtain ⟨name, checked, hname, hchecked, htext⟩ := sql_of_selectRows h
  have hsame := (Identifier.isName_of_require hname).1
  rw [htable] at hsame
  obtain rfl := Value.text.inj hsame
  rw [htext, eq_of_checkedSchema hchecked, RowsPlan.listRequest, RowsPlan.source]
  simp only [String.append_assoc]
  rfl

/-- A count of rows is there for a name only. -/
theorem table_of_countRows {e : Engine} {table : Value} {schema : String} {filter : List Piece}
    {built : Option Query} (h : Build.countRows e table (.text schema) filter = .ok built) :
    ∃ name, table = .text name := by
  obtain ⟨name, hname, -⟩ := ok_of_bind h
  exact ⟨name, (Identifier.isName_of_require hname).1⟩

/-! ### The queries of a page -/

section Runs

variable {σ : Type} [Server σ]

/-- What settles a page of rows has looked at the page that is asked for. -/
theorem rowsPage_of_rowsContext {f : Frame} {q : RowsRequest} {b : RowsContext} {s t : Session σ}
    (h : (rowsContext f q).exec s = (.ok b, t)) : f.rowsPage q.pagination = .ok b.page := by
  have h : (rowsContext f q).Gives s ((rowsContext f q).runs s) b t := ⟨h, rfl⟩
  obtain ⟨e, -, h⟩ := h.of_done_bind
  obtain ⟨name, -, h⟩ := h.of_done_bind
  obtain ⟨_, schema, u, _, -, -, h⟩ := h.of_bind
  obtain ⟨page, hpage, h⟩ := h.of_done_bind
  obtain ⟨_, columns, v, _, -, -, h⟩ := h.of_bind
  obtain rfl := Except.ok.inj (congrArg Prod.fst h.exec)
  exact hpage

/-- What is looked up makes a plan, when the clause of the filters is there and the table has a
    name. -/
theorem isFor_of_lookedUp {q : RowsRequest} {s t : Session σ} {p : RowsPlan}
    {filters : List Value}
    (hcontext : (rowsContext s.frame q).exec s = (.ok p.toRowsContext, t))
    (hfound : lookedUp p.toRowsContext q = .ok (p.selected, p.order))
    (hfilters : Build.itemsOrNone q.filters = .ok filters)
    (hclause : whereClause p.engine (filters.map RowFilter.ofValue) p.columns 1 = .ok p.clause)
    (htable : q.table = .text p.table) : p.IsFor s q := by
  unfold lookedUp at hfound
  split at hfound
  · cases hfound
  · rename_i hcolumns
    obtain ⟨index, hindex, hfound⟩ := ok_of_bind hfound
    obtain ⟨named, hnamed, hfound⟩ := ok_of_bind hfound
    obtain ⟨selected, hselected, hfound⟩ := ok_of_bind hfound
    obtain ⟨order, horder, hfound⟩ := ok_of_bind hfound
    obtain ⟨rfl, rfl⟩ := Prod.mk.inj (Except.ok.inj hfound)
    exact {
      context := by rw [hcontext]
      table := htable
      page := rowsPage_of_rowsContext hcontext
      hasColumns := fun hnone => hcolumns (List.isEmpty_iff.mpr hnone)
      chosen := ⟨index, named, hindex, hnamed, hselected, horder⟩
      filtered := ⟨filters, hfilters, hclause⟩ }

/-- A query on the rows of a table is one of a plan for the request. -/
theorem exists_plan_of_mem_runs {q : RowsRequest} {s t u : Session σ} {b : RowsContext}
    {found : List String × String} {r : Run σ}
    (hcontext : (rowsContext s.frame q).exec s = (.ok b, t)) (hfound : lookedUp b q = .ok found)
    (h : r ∈ (shownRows b q found.1 found.2).runs u) :
    ∃ p : RowsPlan, p.IsFor s q ∧
      (r.request = p.countRequest ∨ ∃ direction, r.request = p.listRequest direction) := by
  obtain ⟨filters, clause, count, hfilters, hclause, hcount, hrequest⟩ := shownRows_cases h
  obtain ⟨name, hname⟩ := table_of_countRows hcount
  let p : RowsPlan := ⟨b, name, found.1, found.2, clause⟩
  refine ⟨p, isFor_of_lookedUp hcontext hfound hfilters hclause hname, ?_⟩
  rcases hrequest with ⟨query, rfl, hrequest⟩ | ⟨direction, query, -, hselect, hrequest⟩
  · exact .inl (hrequest.trans (countRequest_eq p query hname hcount))
  · exact .inr ⟨direction, hrequest.trans (listRequest_eq p query hname hselect)⟩

/-- A query on rows that comes to an answer is run with the arguments of its clause. -/
theorem of_fetch_clause_bind {β : Type} {e : Engine} {operation : String} {built : Option Query}
    {args : List Value} {f : ResultSet → Inquiry β} {s t : Session σ} {runs : List (Run σ)} {b : β}
    (h : ((Inquiry.fetch e operation (built.map fun c => { c with args := args })).bind f).Gives
      s runs b t) :
    ∃ query r u rest, built = some query ∧
      runs = ⟨⟨query.sql e, args, operation, none⟩, s⟩ :: rest ∧
      s.run ⟨query.sql e, args, operation, none⟩ = (.ok r, u) ∧ (f r).Gives u rest b t := by
  obtain ⟨query, r, u, rest, hquery, hruns, hrun, hrest⟩ := h.of_fetch_bind
  obtain ⟨bare, hbare, rfl⟩ := Option.map_eq_some_iff.mp hquery
  exact ⟨bare, r, u, rest, hbare, hruns, hrun, hrest⟩

/-- The rows that are shown were counted first, by the queries of one plan. -/
theorem of_gives_shownRows {q : RowsRequest} {s t u v : Session σ} {b : RowsContext}
    {found : List String × String} {runs : List (Run σ)} {rows : TableRows}
    (hcontext : (rowsContext s.frame q).exec s = (.ok b, t)) (hfound : lookedUp b q = .ok found)
    (h : (shownRows b q found.1 found.2).Gives u runs rows v) :
    ∃ (p : RowsPlan) (direction : String) (counted : ResultSet),
      p.IsFor s q ∧ Build.orderDirection q.direction = .ok direction ∧ rows.page = p.page ∧
      p.CountsAndLists direction runs counted rows.result ∧ counted.Tells rows.total := by
  obtain ⟨filters, hfilters, h⟩ := h.of_done_bind
  obtain ⟨clause, hclause, h⟩ := h.of_done_bind
  obtain ⟨count, hcount, h⟩ := h.of_done_bind
  obtain ⟨name, hname⟩ := table_of_countRows hcount
  obtain ⟨query, counted, w, rest, rfl, rfl, hcounted, h⟩ := of_fetch_clause_bind h
  obtain ⟨total, htotal, h⟩ := h.of_done_bind
  obtain ⟨_, -, h⟩ := h.of_done_bind
  obtain ⟨direction, hdirection, h⟩ := h.of_done_bind
  obtain ⟨select, hselect, h⟩ := h.of_done_bind
  obtain ⟨query', result, x, rest, rfl, rfl, hresult, h⟩ := of_fetch_clause_bind h
  let p : RowsPlan := ⟨b, name, found.1, found.2, clause⟩
  have hcountRequest := countRequest_eq p query hname hcount
  have hlistRequest := listRequest_eq p query' hname hselect
  -- All that is left is to put the answer together.
  obtain ⟨hrows, rfl⟩ := Prod.mk.inj h.exec
  obtain rfl := Except.ok.inj hrows
  obtain rfl := h.runs
  refine ⟨p, direction, counted, isFor_of_lookedUp hcontext hfound hfilters hclause hname,
    hdirection, rfl, ⟨u, w, ?_, hcountRequest ▸ hcounted, ?_⟩, tells_of_countOf htotal⟩
  · rw [← hcountRequest, ← hlistRequest]
    rfl
  · rw [← hlistRequest, hresult]

/-- Browsing a table is settling it, and then running the queries of a plan if there is one. -/
theorem exists_runs_tableRows (s : Session σ) (q : RowsRequest) :
    ∃ rest, (tableRows s.frame q).runs s = (rowsContext s.frame q).runs s ++ rest ∧
      (∀ r ∈ rest, ∃ p : RowsPlan, p.IsFor s q ∧
        (r.request = p.countRequest ∨ ∃ direction, r.request = p.listRequest direction)) ∧
      ∀ rows, ((tableRows s.frame q).exec s).1 = .ok rows →
        ∃ (p : RowsPlan) (direction : String) (counted : ResultSet),
          p.IsFor s q ∧ Build.orderDirection q.direction = .ok direction ∧ rows.page = p.page ∧
          p.CountsAndLists direction rest counted rows.result ∧ counted.Tells rows.total := by
  rw [tableRows_eq, Inquiry.runs_bind, Inquiry.exec_bind]
  refine ⟨_, rfl, ?_⟩
  rcases hcontext : (rowsContext s.frame q).exec s with ⟨failure | b, t⟩
  · exact ⟨fun r hr => absurd hr List.not_mem_nil, fun rows h => nomatch h⟩
  · dsimp only
    rcases hfound : lookedUp b q with failure | found
    · exact ⟨fun r hr => absurd hr List.not_mem_nil, fun rows h => nomatch h⟩
    · refine ⟨fun r hr => exists_plan_of_mem_runs hcontext hfound hr, fun rows h => ?_⟩
      exact of_gives_shownRows hcontext hfound ⟨Prod.ext h rfl, rfl⟩

end Runs

end Reader

/-! ### A call -/

/-- The request that the arguments of a call stand for. -/
def RowsRequest.ofGiven (given : Arguments) : RowsRequest where
  table := given.valueOr "table" (.text "")
  schema := given.valueOr "schema" (.text "")
  filters := given.valueOr "filters" .null
  columns := given.valueOr "columns" .null
  orderBy := given.valueOr "order_by" (.text "")
  direction := given.valueOr "order_direction" (.text "ASC")
  pagination := given.valueOr "pagination" .null

/-- A call by name shows the rows that its arguments ask for. -/
theorem Reader.inquiry_listTableRows {args given : Arguments}
    (hgiven : Method.listTableRows.signature.bind args = .ok given) (f : Frame) :
    Method.listTableRows.inquiry f args =
      (tableRows f (.ofGiven given)).bind fun rows => .done (.ok rows.record.value) := by
  unfold Method.inquiry
  rw [hgiven]
  rfl

/-- Rows with their total, as a record says it. -/
theorem TableRows.value_record {rows : TableRows} (hnumber : 1 ≤ rows.page.number)
    (hsize : 1 ≤ rows.page.size) :
    rows.record.value = Record.value [
      ("columns", .list (rows.result.columns.map .text)),
      ("rows", .list (rows.result.rows.map fun row =>
        Record.value (Catalog.displayRow rows.result.columns row))),
      ("page", .int rows.page.number), ("page_size", .int rows.page.size),
      ("total_count", .int rows.total), ("total_pages", .int (rows.page.totalPages rows.total)),
      ("has_next", .bool (decide (rows.page.number * rows.page.size < rows.total))),
      ("has_previous", .bool (decide (1 < rows.page.number)))] := by
  have hnext : rows.page.hasNext rows.total =
      decide (rows.page.number * rows.page.size < rows.total) := by
    rw [Bool.eq_iff_iff, Page.hasNext_iff hnumber hsize, decide_eq_true_iff]
  rw [TableRows.record, Page.recordOf, hnext, ResultSet.records, List.map_map]
  rfl

/-- The total and the page come from the same rows. A call first settles the table, with the
    current schema and the columns each asked for once at most. A query on the rows of the table
    is one of a plan, for which every column that the request names passed its check, and without
    a plan there is no such query and the call fails. When the call has an answer, the rows were
    counted once and then listed once, both by the plan and so with the same table, the same
    clause and the same arguments. The total is the number that the count came back with, or zero
    when it came back empty, and how many pages there are and whether the page is the last one
    follow from it. The rows are those that were listed. -/
theorem total_and_page_of_same_rows {σ : Type} [Server σ] (s : Session σ) {args given : Arguments}
    (hgiven : Reader.Method.listTableRows.signature.bind args = .ok given) :
    (s.call .listTableRows args).2.events =
        s.events ++ (s.callRuns .listTableRows args).flatMap Run.events ∧
      ∃ q first rest, q = RowsRequest.ofGiven given ∧
        s.callRuns .listTableRows args = first ++ rest ∧
        SettledBy s.frame q.table ["resolving current schema", "getting columns"] first ∧
        (∀ r ∈ rest, ∃ p : RowsPlan, p.IsFor s q ∧
          (r.request = p.countRequest ∨ ∃ direction, r.request = p.listRequest direction)) ∧
        ((∀ p : RowsPlan, ¬p.IsFor s q) →
          rest = [] ∧ (s.call .listTableRows args).1.isOk = false) ∧
        ∀ v, (s.call .listTableRows args).1 = .ok v →
          ∃ (p : RowsPlan) (direction : String) (counted result : ResultSet) (total pages : Int),
            p.IsFor s q ∧ Build.orderDirection q.direction = .ok direction ∧
            p.CountsAndLists direction rest counted result ∧ counted.Tells total ∧
            p.page.Fills total pages ∧
            v = Record.value [
              ("columns", .list (result.columns.map .text)),
              ("rows", .list (result.rows.map fun row =>
                Record.value (Catalog.displayRow result.columns row))),
              ("page", .int p.page.number), ("page_size", .int p.page.size),
              ("total_count", .int total), ("total_pages", .int pages),
              ("has_next", .bool (decide (p.page.number * p.page.size < total))),
              ("has_previous", .bool (decide (1 < p.page.number)))] := by
  obtain ⟨hanswer, hevents, -⟩ := s.call_eq_exec .listTableRows args
  have hcourse := (Reader.Method.listTableRows.inquiry s.frame args).course_exec s
  have hinquiry := Reader.inquiry_listTableRows hgiven s.frame
  obtain ⟨rest, hruns, hplan, hshown⟩ := Reader.exists_runs_tableRows s (.ofGiven given)
  have hcallRuns : s.callRuns .listTableRows args =
      (Reader.tableRows s.frame (.ofGiven given)).runs s := by
    rw [Session.callRuns, hinquiry, Inquiry.runs_bind]
    split <;> exact List.append_nil _
  -- The answer is the record of the rows that browsing came to.
  have hrows : ∀ v, (s.call .listTableRows args).1 = .ok v →
      ∃ rows, ((Reader.tableRows s.frame (.ofGiven given)).exec s).1 = .ok rows ∧
        v = rows.record.value := by
    intro v hv
    rw [hanswer, hinquiry, Inquiry.exec_bind] at hv
    rcases hexec : (Reader.tableRows s.frame (.ofGiven given)).exec s with ⟨failure | rows, t⟩
    · rw [hexec] at hv
      cases hv
    · rw [hexec] at hv
      exact ⟨rows, rfl, (Except.ok.inj hv).symm⟩
  refine ⟨hevents.trans hcourse.events, .ofGiven given, _, rest, rfl, hcallRuns.trans hruns,
    Reader.settledBy_rowsContext s (.ofGiven given), hplan, fun hnone => ⟨?_, ?_⟩, fun v hv => ?_⟩
  · refine List.eq_nil_iff_forall_not_mem.mpr fun r hr => ?_
    obtain ⟨p, hp, -⟩ := hplan r hr
    exact hnone p hp
  · rcases hcall : (s.call .listTableRows args).1 with failure | v
    · rfl
    · obtain ⟨rows, hok, -⟩ := hrows v hcall
      obtain ⟨p, -, -, hp, -⟩ := hshown rows hok
      exact absurd hp (hnone p)
  · obtain ⟨rows, hok, rfl⟩ := hrows v hv
    obtain ⟨p, direction, counted, hp, hdirection, hpage, hqueries, htells⟩ := hshown rows hok
    obtain ⟨hnumber, hsize⟩ := Frame.one_le_of_rowsPage hp.page
    rw [← hpage] at hnumber hsize
    refine ⟨p, direction, counted, rows.result, rows.total, _, hp, hdirection, hqueries, htells,
      hpage ▸ Page.fills_totalPages hsize rows.total, ?_⟩
    rw [← hpage]
    exact TableRows.value_record hnumber hsize

/-- A session that knows the columns of a table, whose server counts five rows that are meant. One
    of the two that it lists was placed in the first century. -/
def fiveRows : Session Script where
  context := {
    engine := some .postgres
    connection := some "main"
    cache := { entries := [("postgres:public:orders", [.text "id", .text "total", .text "day"])] } }
  server := { queues := [("main", [
    .reply { result := { columns := ["count"], rows := [[.int 5]] } },
    .reply { result := {
      columns := ["id", "day"]
      rows := [[.int 4, .date ⟨2024, 3, 9⟩], [.int 3, .date ⟨79, 10, 24⟩]] } }])] }

/-- A request for the second page of two rows each, of the orders from a total on and with the
    latest first. -/
def secondPage : Arguments :=
  [("table", .text "orders"), ("columns", .list [.text "ID", .text "day"]),
    ("filters", .list [.map [(.text "column", .text "TOTAL"), (.text "operator", .text "gte"),
      (.text "value", .int 10)]]),
    ("order_by", .text "Day"), ("order_direction", .text "desc"),
    ("pagination", .map [(.text "page", .int 2), (.text "page_size", .int 2)])]

/-- Its answer: neither the first page nor the last one. -/
def secondOfThree : Value := .map [
  (.text "columns", .list [.text "id", .text "day"]),
  (.text "rows", .list [
    .map [(.text "id", .int 4), (.text "day", .text "2024-03-09")],
    .map [(.text "id", .int 3), (.text "day", .text "0079-10-24")]]),
  (.text "page", .int 2), (.text "page_size", .int 2), (.text "total_count", .int 5),
  (.text "total_pages", .int 3), (.text "has_next", .bool true),
  (.text "has_previous", .bool true)]

/-- What is counted and what is listed for it: the same rows, by one clause and one argument. -/
def secondPageQueries : List Action := [
  .cursor,
  .execute "SELECT COUNT(*) FROM \"public\".\"orders\" WHERE \"total\" >= $1" [.int 10],
  .fetchAll, .closeCursor, .cursor,
  .execute ("SELECT \"id\", \"day\" FROM \"public\".\"orders\" WHERE \"total\" >= $1 " ++
    "ORDER BY \"day\" DESC LIMIT 2 OFFSET 2") [.int 10],
  .fetchAll, .closeCursor]

/-- The second page of two rows each has its total from the same plan as its rows, and the clause
    of the plan and its argument are in both queries. -/
theorem total_and_page_of_five_rows :
    (fiveRows.call .listTableRows secondPage).1 = .ok secondOfThree ∧
    (fiveRows.call .listTableRows secondPage).2.events = secondPageQueries.map (⟨"main", ·⟩) ∧
    ∃ (p : RowsPlan) (direction : String) (counted result : ResultSet) (rest : List (Run Script)),
      p.IsFor fiveRows (.ofGiven secondPage) ∧
      rest <:+ fiveRows.callRuns .listTableRows secondPage ∧
      p.CountsAndLists direction rest counted result ∧ counted.Tells 5 := by
  have hgiven : Reader.Method.listTableRows.signature.bind secondPage = .ok secondPage := rfl
  have hanswer : (fiveRows.call .listTableRows secondPage).1 = .ok secondOfThree := rfl
  obtain ⟨-, q, first, rest, rfl, hruns, -, -, -, hshown⟩ :=
    total_and_page_of_same_rows fiveRows hgiven
  obtain ⟨p, direction, counted, result, total, pages, hp, -, hqueries, htells, -, hv⟩ :=
    hshown _ hanswer
  have htotal : 5 = total := by
    have hfields := Value.map.inj hv
    simp only [List.map_cons, List.cons.injEq, Prod.mk.injEq, Value.int.injEq] at hfields
    exact hfields.2.2.2.2.1.2
  exact ⟨hanswer, rfl, p, direction, counted, result, rest, hp, ⟨first, hruns.symm⟩, hqueries,
    htotal ▸ htells⟩

end SqlCatalog
