import SqlCatalog.Proofs.Query.Rows
import SqlCatalog.Proofs.Query.Search

/-!
# Queries and Their Arguments

The markers of whatever is built agree with the arguments it is built with. A procedure
call is left out here: its arguments are bound by the engine's own calling convention.
A query on rows binds nothing itself; it agrees with the arguments of the clause that it
was given.

## Theorems

* `lockstep_plain`, `lockstep_currentSchema`: Queries that bind nothing are in lockstep.
* `lockstep_catalogue`: So is every query on the catalogue.
* `lockstep_of_build`: Every query that is built agrees with its arguments.
-/

namespace SqlCatalog

/-- Arguments that fit a signature are taken as they are. -/
theorem eq_of_bind {s : Signature} {named given : Arguments} (h : s.bind named = .ok given) :
    given = named := by
  unfold Signature.bind at h
  split at h
  · exact (Except.ok.inj h).symm
  · exact absurd h (by simp)

section

variable {e : Engine} {op : Operation} {given : Arguments} {q : Query}

/-- A query that binds nothing is in lockstep when its pieces are silent. -/
theorem lockstep_of_silent {ps : List Piece} (hsilent : ∀ p ∈ ps, e.silentPiece p = true)
    (h : Build.query op ps [] = .ok (some q)) : InLockstep e op given q := by
  rw [eq_of_query h]
  exact ⟨[], Lockstep.of_placed rfl (Placed.of_silent (looksBack_compared e op []) hsilent)⟩

theorem lockstep_plain (h : Build.query op (e.plainTemplate op) [] = .ok (some q)) :
    InLockstep e op given q :=
  lockstep_of_silent (keyed_plainTemplate e op).silent h

theorem lockstep_currentSchema (h : Build.currentSchema e = .ok (some q)) :
    InLockstep e .currentSchema given q := by
  have hsilent : e.silentPiece (.sql (e.scalarSelect e.rules.currentSchema)) = true := by
    cases e <;> decide +kernel
  exact lockstep_of_silent (List.forall_mem_singleton.mpr hsilent) h

/-- Every query on the catalogue is in lockstep with the parameters of the caller. -/
theorem lockstep_catalogue (hop : op ∉ [Operation.callProcedure, .selectRows, .countRows])
    (h : Operation.build e op given = .ok (some q)) : InLockstep e op given q := by
  obtain ⟨named, hnamed, h⟩ := ok_of_bind h
  rw [eq_of_bind hnamed] at h
  cases op with
  | listTables => exact lockstep_listTables h
  | describeTable | getColumns | getTableSchemaFull | getPrimaryKey | getIndexes
  | getForeignKeys => exact lockstep_tableLookup rfl (by cases e <;> rfl) h
  | tableExists => exact lockstep_objectLookup (by cases e <;> rfl) h
  | listProcedures => exact lockstep_listProcedures h
  | getProcedureCode | getProcedureParameters | getFunctionCode =>
      exact lockstep_objectLookup (by cases e <;> rfl) (supported_of_some h).2
  | getViewDefinition | getTriggerCode => exact lockstep_objectLookup (by cases e <;> rfl) h
  | listFunctions => exact lockstep_listFunctions h
  | listViews => exact lockstep_listViews h
  | listTriggers => exact lockstep_listTriggers h
  | databaseVersion | databaseDetails | objectCounts | listSchemas => exact lockstep_plain h
  | currentSchema => exact lockstep_currentSchema h
  | searchObjects => exact lockstep_searchObjects h
  | selectRows | countRows | callProcedure => exact absurd hop (by decide)

/-- A query on rows is in lockstep with the arguments of the clause that it was given. -/
theorem lockstep_rows {filters : List (Outcome RowFilter)} {columns : List Value}
    {clause : WhereClause} (hop : op ∈ [Operation.selectRows, .countRows])
    (hvalid : ∀ c ∈ columns, Identifier.isValid c = true)
    (hclause : whereClause e filters columns 1 = .ok clause)
    (hgiven : given.valueOr "where_clause" (.text "") = .text (e.render clause.pieces))
    (h : Operation.build e op given = .ok (some q)) :
    Lockstep e (q.sql e) clause.args (boundFilters filters) RowFilter.bound
      (RowFilter.Compared e columns) := by
  obtain ⟨named, hnamed, h⟩ := ok_of_bind h
  rw [eq_of_bind hnamed] at h
  cases op with
  | selectRows =>
      obtain ⟨_, -, h⟩ := ok_of_bind h
      obtain ⟨direction, hdirection, h⟩ := ok_of_bind h
      exact lockstep_selectRows hvalid hclause (congrArg Operation.givenFilter hgiven)
        (direction_cases hdirection) h
  | countRows =>
      exact lockstep_countRows hvalid hclause (congrArg Operation.givenFilter hgiven) h
  | _ => exact absurd hop (by decide)

end

/-- Every query that is built agrees with its arguments: a query on the catalogue with what
    is bound for the parameters of the caller, and a query on rows with the arguments that
    the filters of its clause have bound. -/
theorem lockstep_of_build {e : Engine} {op : Operation} {named : Arguments} {q : Query}
    (h : Operation.build e op named = .ok (some q)) :
    (op ∉ [Operation.callProcedure, .selectRows, .countRows] → InLockstep e op named q)
      ∧ (op ∈ [Operation.selectRows, .countRows] →
        ∀ (filters : List (Outcome RowFilter)) (columns : List Value) (clause : WhereClause),
          (∀ c ∈ columns, Identifier.isValid c = true) →
          whereClause e filters columns 1 = .ok clause →
          named.valueOr "where_clause" (.text "") = .text (e.render clause.pieces) →
          Lockstep e (q.sql e) clause.args (boundFilters filters) RowFilter.bound
            (RowFilter.Compared e columns)) :=
  ⟨fun hop => lockstep_catalogue hop h, fun hop _ _ _ hvalid hclause hgiven =>
    lockstep_rows hop hvalid hclause hgiven h⟩

/-- A listing that leaves out the schema, and a count of rows whose first filter binds
    nothing: what comes next has the first marker. -/
theorem lockstep_renumbered :
    (∃ q, Operation.build .postgres .listTables [("name_filter", .text "ord")] = .ok (some q)
      ∧ InLockstep .postgres .listTables [("name_filter", .text "ord")] q)
    ∧ ∃ q, Operation.build .oracle .countRows
        [("table", .text "orders"),
          ("where_clause", .text "WHERE \"ID\" IS NULL AND \"NAME\" LIKE :1")] = .ok (some q)
      ∧ Lockstep .oracle (q.sql .oracle) [.text "%a%"]
        (boundFilters [.ok ⟨.text "id", .isNull, .null⟩, .ok ⟨.text "name", .contains, .text "a"⟩])
        RowFilter.bound (RowFilter.Compared .oracle [.text "ID", .text "Name"]) := by
  constructor
  · exact ⟨_, rfl, (lockstep_of_build rfl).1 (by decide)⟩
  · obtain ⟨q, hq⟩ : ∃ q, Operation.build .oracle .countRows
        [("table", .text "orders"),
          ("where_clause", .text "WHERE \"ID\" IS NULL AND \"NAME\" LIKE :1")] = .ok (some q) :=
      ⟨_, rfl⟩
    have hclause := (lockstep_of_build hq).2 (List.mem_cons_of_mem _ List.mem_cons_self)
      [.ok ⟨.text "id", .isNull, .null⟩, .ok ⟨.text "name", .contains, .text "a"⟩]
      [.text "ID", .text "Name"]
      ⟨[.sql "WHERE ", .name "ID", .sql " IS NULL", .sql " AND ", .name "Name", .sql " LIKE ",
        .marker 1], [.text "%a%"], 2⟩ (by decide) rfl
    exact ⟨q, hq, hclause (congrArg Value.text (by decide +kernel))⟩

end SqlCatalog
