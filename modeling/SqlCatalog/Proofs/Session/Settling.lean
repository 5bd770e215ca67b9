import SqlCatalog.Proofs.Query.ChosenColumns
import SqlCatalog.Proofs.Session.Questions

/-!
# Settling a Table

Before rows of a table are counted it has to be known where the table is and what columns it has.
Either can take a query, and the reader resolves the schema twice on the way: once for the rows
and once more when it asks for the columns. The second time costs nothing. A schema that is not
empty is taken as it is, and an empty one means that the server was asked already and that its
answer is remembered.

So at most two queries are run, one of each kind and the schema first, whatever the session has
learnt before.

## Main definitions

* `Inquiry.Gives`: An inquiry comes to an answer, by way of some queries.
* `SettlingQuery`: A query for the current schema or for the columns of a table.
* `SettledBy`: Queries that settle a table, one of each of some kinds at most.

## Theorems

* `Inquiry.Gives.of_bind` and the like: An inquiry that comes to an answer, taken apart.
* `Session.currentSchema_of_ask`: The current schema is remembered when it was told.
* `Frame.runs_resolveSchema_again`: A schema that was looked up takes no query when it is
  looked up again.
* `Reader.settledBy_rowsContext`: Each of the two queries is run once at most.
-/

namespace SqlCatalog

/-! ### Inquiries that come to an answer -/

namespace Inquiry

variable {σ α β : Type} [Server σ]

/-- An inquiry comes to an answer, by way of some queries. -/
structure Gives (i : Inquiry α) (s : Session σ) (runs : List (Run σ)) (a : α) (t : Session σ) :
    Prop where
  exec : i.exec s = (.ok a, t)
  runs : i.runs s = runs

namespace Gives

variable {f : α → Inquiry β} {s t : Session σ} {runs : List (Run σ)} {b : β}

/-- An inquiry that comes to an answer in two parts comes to one in each of them. -/
theorem of_bind {i : Inquiry α} (h : (i.bind f).Gives s runs b t) :
    ∃ first a u rest, runs = first ++ rest ∧ i.Gives s first a u ∧ (f a).Gives u rest b t := by
  obtain ⟨hexec, hruns⟩ := h
  rw [exec_bind] at hexec
  rw [runs_bind] at hruns
  rcases hfirst : i.exec s with ⟨failure | a, u⟩
  · rw [hfirst] at hexec
    cases hexec
  · rw [hfirst] at hexec hruns
    exact ⟨i.runs s, a, u, (f a).runs u, hruns.symm, ⟨hfirst, rfl⟩, ⟨hexec, rfl⟩⟩

/-- A step that asks nothing leaves the session as it is. -/
theorem of_done_bind {x : Outcome α} (h : ((done x).bind f).Gives s runs b t) :
    ∃ a, x = .ok a ∧ (f a).Gives s runs b t := by
  cases x with
  | error failure => exact absurd (congrArg Prod.fst h.exec) (by simp [bind, Inquiry.exec])
  | ok a => exact ⟨a, rfl, h⟩

/-- The query of an operation that comes to an answer is run. -/
theorem of_fetch_bind {e : Engine} {operation lacking : String} {q : Option Query}
    {f : ResultSet → Inquiry β} (h : ((fetch e operation q lacking).bind f).Gives s runs b t) :
    ∃ query r u rest, q = some query ∧
      runs = ⟨⟨query.sql e, query.args, operation, none⟩, s⟩ :: rest ∧
      s.run ⟨query.sql e, query.args, operation, none⟩ = (.ok r, u) ∧
      (f r).Gives u rest b t := by
  cases q with
  | none => exact absurd (congrArg Prod.fst h.exec) (by simp [fetch, bind, Inquiry.exec, refuse])
  | some query =>
      obtain ⟨hexec, hruns⟩ := h
      simp only [fetch, bind, Inquiry.exec, Inquiry.runs] at hexec hruns
      rcases hrun : s.run ⟨query.sql e, query.args, operation, none⟩ with ⟨failure | r, u⟩
      · rw [hrun] at hexec
        cases hexec
      · rw [hrun] at hexec hruns
        exact ⟨query, r, u, (f r).runs u, rfl, hruns.symm, hrun, ⟨hexec, rfl⟩⟩

end Gives

end Inquiry

/-! ### The current schema -/

namespace Session

variable {σ : Type}

/-- The current schema is remembered when it was told. -/
theorem currentSchema_of_ask [Server σ] {s t : Session σ} {schema : String}
    (h : s.askCurrentSchema = (.ok schema, t)) : t.context.currentSchema = some schema := by
  unfold askCurrentSchema at h
  split at h
  · rename_i remembered hremembered
    obtain ⟨hschema, rfl⟩ := Prod.mk.inj h
    rw [hremembered, Except.ok.inj hschema]
  · -- Nothing is remembered, so a query is run, and what it names is remembered.
    repeat' split at h
    all_goals cases h
    rfl

theorem currentSchemaRuns_of_remembered {s : Session σ} {schema : String}
    (h : s.context.currentSchema = some schema) : s.currentSchemaRuns = [] := by
  rw [currentSchemaRuns, h]

end Session

/-! ### Queries that settle a table -/

/-- A query for the current schema or for the columns of a table. -/
inductive SettlingQuery (e : Engine) (table : Value) : Request → Prop
  | currentSchema {q : Query} (h : Build.currentSchema e = .ok (some q)) :
      SettlingQuery e table ⟨q.sql e, q.args, "resolving current schema", none⟩
  | columns {schema : String} {q : Query}
      (h : Build.getTableSchemaFull e table (.text schema) = .ok (some q)) :
      SettlingQuery e table ⟨q.sql e, q.args, "getting columns", none⟩

/-- Queries that settle a table, one of each of some kinds at most. -/
structure SettledBy {σ : Type} (f : Frame) (table : Value) (kinds : List String)
    (runs : List (Run σ)) : Prop where
  once : (runs.map (·.request.operation)).Sublist kinds
  settles : ∀ r ∈ runs, ∃ e, f.engine = some e ∧ SettlingQuery e table r.request

namespace SettledBy

variable {σ : Type} {f : Frame} {table : Value} {kinds more : List String}
  {runs rest : List (Run σ)}

theorem nil (f : Frame) (table : Value) (kinds : List String) :
    SettledBy f table kinds ([] : List (Run σ)) :=
  ⟨List.nil_sublist kinds, fun _ hr => absurd hr List.not_mem_nil⟩

theorem single {e : Engine} {q : Request} (he : f.engine = some e) (h : SettlingQuery e table q)
    (s : Session σ) : SettledBy f table [q.operation] [⟨q, s⟩] :=
  ⟨.refl _, List.forall_mem_singleton.mpr ⟨e, he, h⟩⟩

theorem append (h : SettledBy f table kinds runs) (h' : SettledBy f table more rest) :
    SettledBy f table (kinds ++ more) (runs ++ rest) where
  once := by
    rw [List.map_append]
    exact h.once.append h'.once
  settles r hr := (List.mem_append.mp hr).elim (h.settles r) (h'.settles r)

end SettledBy

namespace Session

variable {σ : Type}

/-- The engine of the connection is the one that a reader knows. -/
theorem frame_engine_of_requireConnection {s : Session σ} {c : ConnectionName} {e : Engine}
    (h : s.requireConnection = .ok (c, e)) : s.frame.engine = some e := by
  unfold requireConnection at h
  split at h
  · rename_i active hactive
    rw [frame, hactive, Except.ok.inj h]
    rfl
  · exact absurd h (by simp [refuse])

/-- The current schema takes one query at most. -/
theorem settledBy_currentSchemaRuns (s : Session σ) (table : Value) :
    SettledBy s.frame table ["resolving current schema"] s.currentSchemaRuns := by
  unfold currentSchemaRuns
  split
  · rename_i c e _ hconnection
    split
    · rename_i q hq
      exact .single (frame_engine_of_requireConnection hconnection) (.currentSchema hq) s
    · exact .nil _ _ _
  · exact .nil _ _ _

/-- So do the columns of a table. -/
theorem settledBy_columnRuns {f : Frame} {e : Engine} (he : f.engine = some e) (schema : String)
    (table : Value) (s : Session σ) :
    SettledBy f table ["getting columns"] (s.columnRuns e schema table) := by
  unfold columnRuns
  split
  · exact .nil _ _ _
  · split
    · rename_i q _ hq
      exact .single he (.columns hq) s
    · exact .nil _ _ _

end Session

/-! ### Where a table is -/

namespace Identifier

/-- A schema that is given is the one that is used. -/
theorem eq_of_resolveSchema {schema default resolved : String} (hgiven : schema ≠ "")
    (h : resolveSchema (.text schema) default = .ok resolved) : resolved = schema := by
  have htruthy : (Value.text schema).isTruthy = true := bne_iff_ne.mpr hgiven
  unfold resolveSchema at h
  simp only [htruthy, if_true] at h
  exact (Value.text.inj (isName_of_require h).1).symm

end Identifier

namespace Frame

variable {σ : Type} [Server σ]

/-- Looking a schema up takes one query at most. -/
theorem settledBy_resolveSchema (s : Session σ) (schema table : Value) :
    SettledBy s.frame table ["resolving current schema"]
      ((s.frame.resolveSchema schema).runs s) := by
  have hasked : (Inquiry.currentSchema (pure : String → Inquiry String)).runs s =
      s.currentSchemaRuns := by
    rw [Inquiry.runs]
    rcases s.askCurrentSchema with ⟨failure | found, t⟩ <;> exact List.append_nil _
  rw [resolveSchema_eq]
  split
  · exact .nil _ _ _
  · exact .nil _ _ _
  · split
    · rw [hasked]
      exact s.settledBy_currentSchemaRuns table
    · exact .nil _ _ _

/-- A schema that was looked up takes no query when it is looked up again. -/
theorem runs_resolveSchema_again {f : Frame} {schema : Value} {s t : Session σ} {found : String}
    (h : (f.resolveSchema schema).exec s = (.ok found, t)) :
    (f.resolveSchema (.text found)).runs t = [] := by
  rw [resolveSchema_eq] at h ⊢
  rcases hengine : f.requireEngine with failure | e
  · rfl
  rcases hagain : Identifier.resolveSchema (.text found) f.defaultSchema with failure | again
  · rfl
  rcases hfirst : Identifier.resolveSchema schema f.defaultSchema with failure | first
  · rw [hengine, hfirst] at h
    cases h
  simp only [hengine, hfirst] at h ⊢
  split at h
  · -- The server was asked, so it is remembered what it said.
    have hremembered : t.context.currentSchema = some found := by
      rw [Inquiry.exec] at h
      rcases hask : s.askCurrentSchema with ⟨failure | told, u⟩
      · rw [hask] at h
        cases h
      · rw [hask] at h
        cases h
        exact Session.currentSchema_of_ask hask
    split
    · rw [Inquiry.runs, Session.currentSchemaRuns_of_remembered hremembered]
      rcases t.askCurrentSchema with ⟨failure | told, u⟩ <;> rfl
    · rfl
  · -- A name is found to be itself, and without a name this engine is not asked for one.
    rename_i hunasked
    cases h
    have hsettled : ¬(again = "" && e.supports .schemas) = true := by
      by_cases hnone : found = ""
      · have hlacks : e.supports .schemas = false := by simpa [hnone] using hunasked
        simp [hlacks]
      · rw [Identifier.eq_of_resolveSchema hnone hagain]
        simp [hnone]
    rw [if_neg hsettled]
    rfl

end Frame

/-! ### The columns of a table -/

namespace Reader

variable {σ : Type} [Server σ]

/-- Asking for the columns of a table whose schema was looked up takes one query at most. -/
theorem settledBy_tableColumns {s : Session σ} {f : Frame} {schema : Value} {found : String}
    {t : Session σ} (h : (f.resolveSchema schema).exec s = (.ok found, t)) (table : Value) :
    SettledBy f table ["getting columns"] ((tableColumns f table (.text found)).runs t) := by
  unfold tableColumns Frame.requireEngine
  rcases hengine : f.engine with _ | e
  · exact .nil _ _ _
  · change SettledBy f table _ (Inquiry.runs (Inquiry.bind (f.resolveSchema (.text found))
      fun again => .columns e again table pure) t)
    rw [Inquiry.runs_bind, Frame.runs_resolveSchema_again h, List.nil_append]
    split
    · exact .nil _ _ _
    · rename_i again u _
      have hasked : (Inquiry.columns e again table pure).runs u = u.columnRuns e again table := by
        rw [Inquiry.runs]
        rcases u.askColumns e again table with ⟨failure | names, v⟩ <;> exact List.append_nil _
      rw [hasked]
      exact u.settledBy_columnRuns hengine again table

/-- Before any row is counted the server is asked for the current schema and for the columns of
    the table, each once at most. -/
theorem settledBy_rowsContext (s : Session σ) (q : RowsRequest) :
    SettledBy s.frame q.table ["resolving current schema", "getting columns"]
      ((rowsContext s.frame q).runs s) := by
  unfold rowsContext
  rcases s.frame.requireEngine with failure | e
  · exact .nil _ _ _
  rcases Identifier.require q.table "table" with failure | table
  · exact .nil _ _ _
  change SettledBy s.frame q.table (["resolving current schema"] ++ ["getting columns"])
    (Inquiry.runs (Inquiry.bind (s.frame.resolveSchema q.schema) _) s)
  rw [Inquiry.runs_bind]
  refine .append (Frame.settledBy_resolveSchema s q.schema q.table) ?_
  rcases hfound : (s.frame.resolveSchema q.schema).exec s with ⟨failure | found, t⟩
  · exact .nil _ _ _
  rcases s.frame.rowsPage q.pagination with failure | page
  · exact .nil _ _ _
  change SettledBy s.frame q.table _
    (Inquiry.runs (Inquiry.bind (tableColumns s.frame q.table (.text found)) _) t)
  rw [Inquiry.runs_bind]
  have hcolumns := settledBy_tableColumns hfound q.table
  rw [← List.append_nil ((tableColumns s.frame q.table (.text found)).runs t)] at hcolumns
  rcases (tableColumns s.frame q.table (.text found)).exec t with ⟨failure | columns, u⟩
  · exact hcolumns
  · exact hcolumns

end Reader

end SqlCatalog
