import SqlCatalog.Proofs.Session.Settling

/-!
# Where the Structure of a Table Comes From

Describing a table runs four queries, after the one for the current schema if that has to be
asked for: for its columns, its key, its indexes and its foreign keys. Each part of the structure
that is reported is decoded from the answer to one of them and from nothing else. This is what it
takes to carry a fact about decoded rows over to a call, because it says which rows were decoded.

The answers are told apart by what their queries are run for. No two queries of a call are run
for the same, so a part has one answer that it can come from.

## Main definitions

* `AnsweredOnce`: The query of an operation is run once, and it is answered.
* `TableAnswers`: The answers from which a table is described.
* `TableSchema.IsRead`: A structure is decoded from such answers.

## Theorems

* `AnsweredOnce.unique`: There is no other answer.
* `Reader.isRead_of_gives_tableSchema`: Every structure of a table is decoded from answers.
* `Reader.isRead_of_call`: So is the one that a call by name answers with.
-/

namespace SqlCatalog

/-- The query of an operation is run once, and it is answered. -/
def AnsweredOnce {σ : Type} [Server σ] (runs : List (Run σ)) (operation : String)
    (r : ResultSet) : Prop :=
  ∃ run, runs.filter (·.request.operation == operation) = [run] ∧
    (run.session.run run.request).1 = .ok r

namespace AnsweredOnce

variable {σ : Type} [Server σ] {run : Run σ} {rest : List (Run σ)} {operation : String}
  {r : ResultSet}

/-- The query is run once when it is run first and those that follow are for something else. -/
theorem cons (hanswer : (run.session.run run.request).1 = .ok r)
    (hrest : ∀ other ∈ rest, other.request.operation ≠ run.request.operation) :
    AnsweredOnce (run :: rest) run.request.operation r := by
  refine ⟨run, ?_, hanswer⟩
  rw [List.filter_cons_of_pos (by simp), List.filter_eq_nil_iff.mpr (by simpa using hrest)]

/-- Queries that are run before and for something else do not matter. -/
theorem append_left (first : List (Run σ))
    (hfirst : ∀ other ∈ first, other.request.operation ≠ operation)
    (h : AnsweredOnce rest operation r) : AnsweredOnce (first ++ rest) operation r := by
  obtain ⟨run, honce, hanswer⟩ := h
  refine ⟨run, ?_, hanswer⟩
  rw [List.filter_append, honce, List.filter_eq_nil_iff.mpr (by simpa using hfirst),
    List.nil_append]

/-- There is no other answer. -/
theorem unique {r' : ResultSet} (h : AnsweredOnce rest operation r)
    (h' : AnsweredOnce rest operation r') : r = r' := by
  obtain ⟨run, honce, hanswer⟩ := h
  obtain ⟨run', honce', hanswer'⟩ := h'
  obtain rfl := (List.cons.inj (honce.symm.trans honce')).1
  exact Except.ok.inj (hanswer.symm.trans hanswer')

end AnsweredOnce

/-- The answers from which a table is described: those with its columns, its key, its indexes and
    its foreign keys. -/
structure TableAnswers where
  described : ResultSet
  keyed : ResultSet
  indexed : ResultSet
  linked : ResultSet

/-- A structure is decoded from answers, each of which some query came back with. -/
structure TableSchema.IsRead {σ : Type} [Server σ] (t : TableSchema) (e : Engine)
    (runs : List (Run σ)) (a : TableAnswers) : Prop where
  described : AnsweredOnce runs "getting table schema" a.described
  keyed : AnsweredOnce runs "getting primary key" a.keyed
  indexed : AnsweredOnce runs "getting indexes" a.indexed
  linked : AnsweredOnce runs "getting foreign keys" a.linked
  columns : Catalog.decodeColumns e a.described.rows = .ok t.columns
  primaryKey : Catalog.decodePrimaryKey e a.keyed.rows = .ok t.primaryKey
  indexes : Catalog.decodeIndexes e a.indexed.rows = .ok t.indexes
  foreignKeys : Catalog.decodeForeignKeys e a.linked.rows = .ok t.foreignKeys

/-- The engine that is required is the one that a reader knows. -/
theorem Frame.engine_of_requireEngine {f : Frame} {e : Engine} (h : f.requireEngine = .ok e) :
    f.engine = some e := by
  unfold requireEngine at h
  split at h
  · rename_i known hknown
    rw [hknown, Except.ok.inj h]
  · exact nomatch h

namespace Reader

variable {σ : Type} [Server σ]

/-- Looking a schema up is all that is run before the table is described. -/
theorem operation_of_mem_resolveSchema {s t : Session σ} {schema : Value} {runs : List (Run σ)}
    {name : String} (h : (s.frame.resolveSchema schema).Gives s runs name t) :
    ∀ run ∈ runs, run.request.operation = "resolving current schema" := by
  intro run hrun
  have hsettled := Frame.settledBy_resolveSchema s schema .null
  rw [h.runs] at hsettled
  exact List.mem_singleton.mp (hsettled.once.subset (List.mem_map_of_mem hrun))

/-- Every structure of a table is decoded from answers. -/
theorem isRead_of_gives_tableSchema {s u : Session σ} {table schema : Value}
    {runs : List (Run σ)} {t : TableSchema}
    (h : (tableSchema s.frame table schema).Gives s runs t u) :
    ∃ e a, s.frame.engine = some e ∧ t.IsRead e runs a := by
  obtain ⟨e, he, h⟩ := h.of_done_bind
  obtain ⟨first, name, s₁, rest, rfl, hfirst, h⟩ := h.of_bind
  obtain ⟨q, -, h⟩ := h.of_done_bind
  obtain ⟨_, described, s₂, rest, rfl, rfl, hdescribed, h⟩ := h.of_fetch_bind
  obtain ⟨columns, hcolumns, h⟩ := h.of_done_bind
  split at h
  · -- A table without columns is refused.
    obtain ⟨_, hrefused, -⟩ := h.of_done_bind
    exact nomatch hrefused
  obtain ⟨q, -, h⟩ := h.of_done_bind
  obtain ⟨_, keyed, s₃, rest, rfl, rfl, hkeyed, h⟩ := h.of_fetch_bind
  obtain ⟨q, -, h⟩ := h.of_done_bind
  obtain ⟨_, indexed, s₄, rest, rfl, rfl, hindexed, h⟩ := h.of_fetch_bind
  obtain ⟨q, -, h⟩ := h.of_done_bind
  obtain ⟨_, linked, s₅, rest, rfl, rfl, hlinked, h⟩ := h.of_fetch_bind
  obtain ⟨primaryKey, hprimaryKey, h⟩ := h.of_done_bind
  obtain ⟨indexes, hindexes, h⟩ := h.of_done_bind
  obtain ⟨foreignKeys, hforeignKeys, h⟩ := h.of_done_bind
  obtain rfl := Except.ok.inj (congrArg Prod.fst h.exec)
  obtain rfl : rest = [] := h.runs.symm
  have hother (operation : String) (hne : "resolving current schema" ≠ operation) :
      ∀ run ∈ first, run.request.operation ≠ operation :=
    fun run hrun => operation_of_mem_resolveSchema hfirst run hrun ▸ hne
  refine ⟨e, ⟨described, keyed, indexed, linked⟩, Frame.engine_of_requireEngine he, {
    described := .append_left first (hother _ (by decide)) ?_
    keyed := .append_left first (hother _ (by decide)) ?_
    indexed := .append_left first (hother _ (by decide)) ?_
    linked := .append_left first (hother _ (by decide)) ?_
    columns := hcolumns
    primaryKey := hprimaryKey
    indexes := hindexes
    foreignKeys := hforeignKeys }⟩
  · exact .cons (congrArg Prod.fst hdescribed) (by simp)
  · exact .append_left [_] (by simp) (.cons (congrArg Prod.fst hkeyed) (by simp))
  · exact .append_left [_, _] (by simp) (.cons (congrArg Prod.fst hindexed) (by simp))
  · exact .append_left [_, _, _] (by simp) (.cons (congrArg Prod.fst hlinked) (by simp))

/-- So is the one that a call by name answers with. -/
theorem isRead_of_call {s : Session σ} {args : Arguments} {v : Value}
    (h : (s.call .getTableSchema args).1 = .ok v) :
    ∃ (t : TableSchema) (e : Engine) (a : TableAnswers), v = t.record.value ∧
      s.frame.engine = some e ∧ t.IsRead e (s.callRuns .getTableSchema args) a := by
  obtain ⟨hanswer, -, -⟩ := s.call_eq_exec .getTableSchema args
  have h : (Method.getTableSchema.inquiry s.frame args).Gives s
      (s.callRuns .getTableSchema args) v _ := ⟨Prod.ext (hanswer.symm.trans h) rfl, rfl⟩
  obtain ⟨given, -, h⟩ := h.of_done_bind
  obtain ⟨runs, t, u, rest, hruns, hread, h⟩ := h.of_bind
  obtain rfl : rest = [] := h.runs.symm
  obtain ⟨e, a, he, hread⟩ := isRead_of_gives_tableSchema hread
  rw [List.append_nil] at hruns
  exact ⟨t, e, a, (Except.ok.inj (congrArg Prod.fst h.exec)).symm, he, hruns ▸ hread⟩

end Reader

end SqlCatalog
