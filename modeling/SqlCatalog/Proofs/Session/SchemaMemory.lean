import SqlCatalog.Proofs.Session.Cursors
import SqlCatalog.Proofs.Session.Questions
import SqlCatalog.Proofs.Session.Settling

/-!
# The Memory of the Current Schema

The server is asked for its current schema once, and what it said is remembered. What it says may
be nothing, and then it is the empty name that is remembered, which is not the same as not having
asked. A query that fails leaves no memory at all, and so the next question runs it again.

A session is asked the question by many methods, by some of them twice, and a call may end at any
query. All this comes down to an order: of the sessions that are asked one after the other, those
behind one that came to an answer remember it. A question that is remembered runs no query and
leaves the session as it is.

The order holds for as long as nobody takes the memory away, that is over any stretch of calls in
which the datasource is left alone otherwise. What else happens there does not matter: the server
may change, and so may the ceilings of the reader.

## Main definitions

* `Run.isForSchema`: Whether a query is run to learn the current schema.
* `ResultSet.toldSchema`: The schema that an answer tells.
* `Inquiry.schemaAsks`: The sessions that an inquiry asks for the current schema.
* `Session.PassesOn`: What a session was told is remembered by another one.
* `Stretch`: Calls of the reader, with the datasource left alone in between.

## Theorems

* `Inquiry.filter_runs`: The queries for the current schema are those of the questions for it.
* `Inquiry.passesOn_exec`, `Stretch.passesOn`: An answer is remembered by all later sessions.
* `current_schema_asked_once`: The current schema is asked for where it is needed, and not again
  once it was told.
-/

namespace SqlCatalog

/-! ### One question -/

/-- Whether a query is run to learn the current schema. -/
def Run.isForSchema {σ : Type} (r : Run σ) : Bool :=
  r.request.operation == "resolving current schema"

/-- The schema that an answer tells: the text of its first cell, and the empty one where there is
    no row, or nothing in its first cell. -/
def ResultSet.toldSchema (r : ResultSet) : String :=
  match r.rows with
  | (v :: _) :: _ => if v.isTruthy then v.plain else ""
  | _ => ""

namespace Session

variable {σ : Type} {s : Session σ} {x : String}

/-- An answer whose rows have cells tells a schema. -/
theorem namedSchema_of_cells {r : ResultSet} (h : r.rows.head? ≠ some []) :
    namedSchema r = .ok r.toldSchema := by
  unfold namedSchema ResultSet.toldSchema
  rcases hrows : r.rows with _ | ⟨_ | ⟨v, row⟩, rest⟩
  · rfl
  · rw [hrows] at h
    exact absurd rfl h
  · rfl

/-- A schema that is remembered is told without a query. -/
theorem askCurrentSchema_of_remembered [Server σ] (h : s.context.currentSchema = some x) :
    s.askCurrentSchema = (.ok x, s) := by
  rw [askCurrentSchema, h]

/-- The query of the question is the builder's, and is run where nothing is remembered. -/
theorem of_mem_currentSchemaRuns {r : Run σ} (h : r ∈ s.currentSchemaRuns) :
    s.context.currentSchema = none ∧ ∃ c e q, s.context.active? = some (c, e) ∧
      Build.currentSchema e = .ok (some q) ∧
      r = ⟨⟨q.sql e, q.args, "resolving current schema", none⟩, s⟩ := by
  unfold currentSchemaRuns requireConnection at h
  rcases hnone : s.context.currentSchema with _ | x
  · rcases hactive : s.context.active? with _ | ⟨c, e⟩
    · simp [hnone, hactive, refuse] at h
    · simp only [hnone, hactive] at h
      split at h
      · rename_i q hq
        exact ⟨rfl, c, e, q, rfl, hq, List.mem_singleton.mp h⟩
      · exact absurd h List.not_mem_nil
  · simp [hnone] at h

theorem isForSchema_of_mem {r : Run σ} (h : r ∈ s.currentSchemaRuns) :
    r.isForSchema = true := by
  obtain ⟨-, c, e, q, -, -, rfl⟩ := of_mem_currentSchemaRuns h
  rfl

/-- The columns of a table are asked for by another query. -/
theorem not_isForSchema_of_mem {e : Engine} {schema : String} {table : Value} {r : Run σ}
    (h : r ∈ s.columnRuns e schema table) : ¬r.isForSchema = true := by
  unfold columnRuns at h
  split at h
  · exact absurd h List.not_mem_nil
  · split at h
    · rw [List.mem_singleton.mp h, Run.isForSchema, beq_iff_eq]
      simp
    · exact absurd h List.not_mem_nil

/-- What the query told is the answer to the question. -/
theorem ask_of_answered [Server σ] {r : Run σ} {rows : ResultSet} (hr : r ∈ s.currentSchemaRuns)
    (hrows : (r.session.run r.request).1 = .ok rows) (hcells : rows.rows.head? ≠ some []) :
    s.askCurrentSchema.1 = .ok rows.toldSchema := by
  obtain ⟨hnone, c, e, q, hactive, hq, rfl⟩ := of_mem_currentSchemaRuns hr
  rw [askCurrentSchema, hnone, requireConnection, hactive]
  simp only [hq]
  rcases hrun : s.run ⟨q.sql e, q.args, "resolving current schema", none⟩ with ⟨f | answer, t⟩
  · rw [hrun] at hrows
    cases hrows
  · rw [hrun] at hrows
    cases hrows
    simp only [namedSchema_of_cells hcells]

/-- What a session is told, if it is told anything, is remembered by another one. -/
def PassesOn [Server σ] (s t : Session σ) : Prop :=
  ∀ x, s.askCurrentSchema.1 = .ok x → t.context.currentSchema = some x

theorem PassesOn.learns [Server σ] {t u : Session σ} (h : s.PassesOn t)
    (hlearns : t.context.Learns u.context) : s.PassesOn u :=
  fun x hx => hlearns.currentSchema x (h x hx)

end Session

/-! ### The questions of an inquiry -/

namespace Inquiry

variable {σ α β : Type} [Server σ]

open Session (PassesOn)

/-- The sessions that an inquiry asks for the current schema, in order. -/
def schemaAsks : Inquiry α → Session σ → List (Session σ)
  | .done _, _ => []
  | .run q next, s =>
    match s.run q with
    | (.error _, _) => []
    | (.ok r, s) => (next r).schemaAsks s
  | .currentSchema next, s =>
    s :: match s.askCurrentSchema with
      | (.error _, _) => []
      | (.ok schema, s) => (next schema).schemaAsks s
  | .columns e schema table next, s =>
    match s.askColumns e schema table with
    | (.error _, _) => []
    | (.ok names, s) => (next names).schemaAsks s

/-- The current schema is asked for only where that is needed. -/
theorem needed_of_mem_schemaAsks {needed : Prop} {n : Nat} (i : Inquiry α)
    (hasks : i.Asks needed n) {s u : Session σ} (hu : u ∈ i.schemaAsks s) : needed := by
  induction i generalizing s n with
  | done outcome => exact absurd hu List.not_mem_nil
  | run q next ih =>
      rw [schemaAsks] at hu
      rcases heq : s.run q with ⟨f | r, t⟩ <;> rw [heq] at hu
      · exact absurd hu List.not_mem_nil
      · exact ih r (hasks.2 r) hu
  | currentSchema next ih => exact hasks.1
  | columns e schema table next ih =>
      obtain ⟨k, rfl, hnext⟩ := hasks
      rw [schemaAsks] at hu
      rcases heq : s.askColumns e schema table with ⟨f | names, t⟩ <;> rw [heq] at hu
      · exact absurd hu List.not_mem_nil
      · exact ih names (hnext names) hu

/-- The queries for the current schema are those of the questions for it. -/
theorem filter_runs {needed : Prop} {n : Nat} (i : Inquiry α) (hasks : i.Asks needed n)
    (s : Session σ) :
    (i.runs s).filter Run.isForSchema = (i.schemaAsks s).flatMap Session.currentSchemaRuns := by
  induction i generalizing s n with
  | done outcome => rfl
  | run q next ih =>
      have hnone : [Run.mk q s].filter Run.isForSchema = [] :=
        List.filter_eq_nil_iff.mpr fun r hr => by
          rw [List.mem_singleton.mp hr, Run.isForSchema, beq_iff_eq]
          exact hasks.1
      rw [runs, schemaAsks, List.filter_append, hnone, List.nil_append]
      rcases s.run q with ⟨f | r, t⟩
      · rfl
      · exact ih r (hasks.2 r) t
  | currentSchema next ih =>
      have hall : s.currentSchemaRuns.filter Run.isForSchema = s.currentSchemaRuns :=
        List.filter_eq_self.mpr fun r => Session.isForSchema_of_mem
      rw [runs, schemaAsks, List.filter_append, hall, List.flatMap_cons]
      rcases s.askCurrentSchema with ⟨f | schema, t⟩
      · rfl
      · exact congrArg _ (ih schema (hasks.2 schema) t)
  | columns e schema table next ih =>
      obtain ⟨k, rfl, hnext⟩ := hasks
      have hnone : (s.columnRuns e schema table).filter Run.isForSchema = [] :=
        List.filter_eq_nil_iff.mpr fun r => Session.not_isForSchema_of_mem
      rw [runs, schemaAsks, List.filter_append, hnone, List.nil_append]
      rcases s.askColumns e schema table with ⟨f | names, t⟩
      · rfl
      · exact ih names (hnext names) t

/-- Whatever an inquiry asks, it asks a session that has learnt something at most. -/
theorem learns_of_mem_schemaAsks (i : Inquiry α) {s u : Session σ} (hu : u ∈ i.schemaAsks s) :
    s.context.Learns u.context := by
  induction i generalizing s with
  | done outcome => exact absurd hu List.not_mem_nil
  | run q next ih =>
      have hfirst := (s.asked_run q).learns
      rw [schemaAsks] at hu
      rcases heq : s.run q with ⟨f | r, t⟩ <;> rw [heq] at hu hfirst
      · exact absurd hu List.not_mem_nil
      · exact hfirst.trans (ih r hu)
  | currentSchema next ih =>
      have hfirst := s.asked_currentSchema.learns
      rw [schemaAsks] at hu
      rcases List.mem_cons.mp hu with rfl | hu
      · exact .refl _
      · rcases heq : s.askCurrentSchema with ⟨f | schema, t⟩ <;> rw [heq] at hu hfirst
        · exact absurd hu List.not_mem_nil
        · exact hfirst.trans (ih schema hu)
  | columns e schema table next ih =>
      have hfirst := (Session.asked_columns e schema table s).learns
      rw [schemaAsks] at hu
      rcases heq : s.askColumns e schema table with ⟨f | names, t⟩ <;> rw [heq] at hu hfirst
      · exact absurd hu List.not_mem_nil
      · exact hfirst.trans (ih names hu)

/-- What a session was told is remembered by those that are asked later, and by the one that the
    inquiry leaves. -/
theorem passesOn_exec (i : Inquiry α) (s : Session σ) :
    (i.schemaAsks s).Pairwise PassesOn ∧ ∀ u ∈ i.schemaAsks s, PassesOn u (i.exec s).2 := by
  induction i generalizing s with
  | done outcome => exact ⟨.nil, fun u hu => absurd hu List.not_mem_nil⟩
  | run q next ih =>
      rw [schemaAsks, exec]
      rcases s.run q with ⟨f | r, t⟩
      · exact ⟨.nil, fun u hu => absurd hu List.not_mem_nil⟩
      · exact ih r t
  | currentSchema next ih =>
      rw [schemaAsks, exec]
      rcases heq : s.askCurrentSchema with ⟨f | schema, t⟩
      · -- Nothing was told, so there is nothing to remember.
        refine ⟨List.pairwise_singleton _ _, List.forall_mem_singleton.mpr fun x hx => ?_⟩
        rw [heq] at hx
        cases hx
      · have hpasses : PassesOn s t := fun x hx => by
          rw [heq] at hx
          exact Except.ok.inj hx ▸ Session.currentSchema_of_ask heq
        obtain ⟨hlater, hleft⟩ := ih schema t
        refine ⟨List.pairwise_cons.mpr ⟨fun u hu => ?_, hlater⟩,
          List.forall_mem_cons.mpr ⟨?_, hleft⟩⟩
        · exact hpasses.learns ((next schema).learns_of_mem_schemaAsks hu)
        · exact hpasses.learns ((next schema).course_exec t).learns
  | columns e schema table next ih =>
      rw [schemaAsks, exec]
      rcases s.askColumns e schema table with ⟨f | names, t⟩
      · exact ⟨.nil, fun u hu => absurd hu List.not_mem_nil⟩
      · exact ih names t

end Inquiry

/-! ### A stretch of calls -/

/-- A call of the reader, with the session that it is made on. -/
structure ReaderCall (σ : Type) where
  session : Session σ
  method : Reader.Method
  args : Arguments

namespace ReaderCall

variable {σ : Type} [Server σ]

/-- The queries of the call. -/
def runs (c : ReaderCall σ) : List (Run σ) := c.session.callRuns c.method c.args

/-- The sessions that it asks for the current schema. -/
def schemaAsks (c : ReaderCall σ) : List (Session σ) :=
  (c.method.inquiry c.session.frame c.args).schemaAsks c.session

/-- The schema that the caller names, empty where none is given. -/
def schema (c : ReaderCall σ) : Value := c.args.valueOr "schema" (.text "")

theorem filter_runs (c : ReaderCall σ) :
    c.runs.filter Run.isForSchema = c.schemaAsks.flatMap Session.currentSchemaRuns :=
  Inquiry.filter_runs _ (c.method.asks c.session.frame c.args) c.session

/-- A query for the current schema is the builder's, and is run for a caller who names no schema,
    where there is no default and the engine has schemas. -/
theorem of_isForSchema {c : ReaderCall σ} {r : Run σ} (hr : r ∈ c.runs)
    (hschema : r.isForSchema = true) :
    c.schema.isTruthy = false ∧ c.session.context.defaultSchema = "" ∧
      ∃ d e q, c.session.context.active? = some (d, e) ∧ e.supports .schemas = true ∧
        Build.currentSchema e = .ok (some q) ∧
        r.request = ⟨q.sql e, q.args, "resolving current schema", none⟩ := by
  have hmem := List.mem_filter.mpr ⟨hr, hschema⟩
  rw [filter_runs, List.mem_flatMap] at hmem
  obtain ⟨u, hu, hru⟩ := hmem
  have hlearns := Inquiry.learns_of_mem_schemaAsks _ hu
  obtain ⟨hnone, hdefault, e', hengine, hschemas⟩ :=
    Inquiry.needed_of_mem_schemaAsks _ (c.method.asks c.session.frame c.args) hu
  obtain ⟨-, d, e, q, hactive, hq, rfl⟩ := Session.of_mem_currentSchemaRuns hru
  -- The datasource is that of the beginning of the call, so it has the same engine.
  rw [hlearns.active?_eq] at hactive
  rw [Session.frame, hactive] at hengine
  cases hengine
  exact ⟨hnone, hdefault, d, e, q, hactive, hschemas, hq, rfl⟩

end ReaderCall

/-- A stretch of calls, one after the other, from one session to another. In between the
    datasource is left alone, whatever else happens. -/
inductive Stretch {σ : Type} [Server σ] (s : Session σ) : List (ReaderCall σ) → Session σ → Prop
  | start : Stretch s [] s
  | call {calls : List (ReaderCall σ)} {t : Session σ} (h : Stretch s calls t)
      (m : Reader.Method) (args : Arguments) :
      Stretch s (calls ++ [⟨t, m, args⟩]) (t.call m args).2
  | meanwhile {calls : List (ReaderCall σ)} {t u : Session σ} (h : Stretch s calls t)
      (hcontext : u.context = t.context) : Stretch s calls u

namespace Stretch

variable {σ : Type} [Server σ] {s t : Session σ} {calls : List (ReaderCall σ)}

open Session (PassesOn)

/-- What a session was told is remembered by those that are asked later in the stretch, and at
    its end. -/
theorem passesOn (h : Stretch s calls t) :
    (calls.flatMap ReaderCall.schemaAsks).Pairwise PassesOn ∧
      ∀ u ∈ calls.flatMap ReaderCall.schemaAsks, PassesOn u t := by
  induction h with
  | start => exact ⟨.nil, fun u hu => absurd hu List.not_mem_nil⟩
  | @call calls t h m args ih =>
      obtain ⟨hpast, hnow⟩ := ih
      obtain ⟨hlater, hleft⟩ := (m.inquiry t.frame args).passesOn_exec t
      obtain ⟨-, -, hcontext⟩ := t.call_eq_exec m args
      rw [List.flatMap_append, List.flatMap_singleton]
      refine ⟨List.pairwise_append.mpr ⟨hpast, hlater, fun u hu v hv => ?_⟩, fun u hu => ?_⟩
      · exact (hnow u hu).learns (Inquiry.learns_of_mem_schemaAsks _ hv)
      · rcases List.mem_append.mp hu with hu | hu
        · exact (hnow u hu).learns (t.learns_call m args)
        · exact (hleft u hu).learns (hcontext ▸ .refl _)
  | meanwhile h hcontext ih =>
      exact ⟨ih.1, fun u hu => (ih.2 u hu).learns (hcontext ▸ .refl _)⟩

/-- The queries for the current schema are those of the questions for it. -/
theorem filter_runs (calls : List (ReaderCall σ)) :
    (calls.flatMap ReaderCall.runs).filter Run.isForSchema =
      (calls.flatMap ReaderCall.schemaAsks).flatMap Session.currentSchemaRuns := by
  rw [List.filter_flatMap, List.flatMap_assoc]
  exact congrArg (List.flatMap · calls) (funext ReaderCall.filter_runs)

/-- A question that came to an answer is followed by questions that have the same one, and that
    leave the session as it is. -/
theorem same_answer (h : Stretch s calls t) :
    (calls.flatMap ReaderCall.schemaAsks).Pairwise fun u v =>
      ∀ x, u.askCurrentSchema.1 = .ok x → v.askCurrentSchema = (.ok x, v) :=
  h.passesOn.1.imp fun hpasses x hx => Session.askCurrentSchema_of_remembered (hpasses x hx)

/-- A query for the current schema that was answered is the last one of them. -/
theorem last_of_answered (h : Stretch s calls t) :
    ((calls.flatMap ReaderCall.runs).filter Run.isForSchema).Pairwise fun r _ =>
      ∀ rows, (r.session.run r.request).1 = .ok rows → rows.rows.head? = some [] := by
  rw [filter_runs, List.pairwise_flatMap]
  refine ⟨fun u _ => u.asked_currentSchema.pairwise _, h.passesOn.1.imp ?_⟩
  intro u v hpasses r hr later hlater rows hrows
  -- A session that remembers what was told has no query to run.
  by_contra hcells
  have hremembered := hpasses _ (Session.ask_of_answered hr hrows hcells)
  rw [Session.currentSchemaRuns_of_remembered hremembered] at hlater
  exact absurd hlater List.not_mem_nil

/-- What it told is remembered at the end. -/
theorem remembered_of_answered (h : Stretch s calls t) {r : Run σ}
    (hr : r ∈ calls.flatMap ReaderCall.runs) (hschema : r.isForSchema = true) {rows : ResultSet}
    (hrows : (r.session.run r.request).1 = .ok rows) (hcells : rows.rows.head? ≠ some []) :
    t.context.currentSchema = some rows.toldSchema := by
  have hmem := List.mem_filter.mpr ⟨hr, hschema⟩
  rw [filter_runs, List.mem_flatMap] at hmem
  obtain ⟨u, hu, hru⟩ := hmem
  exact h.passesOn.2 u hu _ (Session.ask_of_answered hru hrows hcells)

end Stretch

/-! ### Histories -/

/-- The steps that leave the datasource alone. -/
def Step.sparesDatasource : Step → Bool
  | .configure _ _ _ | .disconnect | .rememberSchema _ => false
  | .call _ _ | .limit _ | .requireConnection | .prepare _ _ | .failClosing _ _ => true

/-- The call of the reader that a step is, where it is one. -/
def Session.readerCall (s : Session Script) : Step → List (ReaderCall Script)
  | .call m args => [⟨s, m, args⟩]
  | _ => []

/-- The calls of the reader in a history. -/
def Session.readerCalls (s : Session Script) : List Step → List (ReaderCall Script)
  | [] => []
  | step :: rest => s.readerCall step ++ (s.take step).2.readerCalls rest

/-- A history goes on with a stretch for as long as its steps leave the datasource alone. -/
theorem Stretch.after {s t : Session Script} {calls : List (ReaderCall Script)}
    (h : Stretch s calls t) {history : List Step}
    (hspares : ∀ step ∈ history, step.sparesDatasource = true) :
    Stretch s (calls ++ t.readerCalls history) (t.after history) := by
  induction history generalizing t calls with
  | nil =>
      rw [Session.readerCalls, List.append_nil]
      exact h
  | cons step rest ih =>
      obtain ⟨hstep, hrest⟩ := List.forall_mem_cons.mp hspares
      rw [Session.readerCalls, ← List.append_assoc]
      cases step with
      | configure | disconnect | rememberSchema => cases hstep
      | call m args => exact ih (h.call m args) hrest
      | limit | requireConnection | prepare | failClosing =>
          -- No call, so there is none to add.
          change Stretch s (calls ++ [] ++ _) _
          rw [List.append_nil]
          exact ih (h.meanwhile rfl) hrest

/-- Where the current schema is needed, looking a schema up gives the one that is remembered. -/
theorem Session.call_resolveSchema {σ : Type} [Server σ] {t : Session σ} {x : String}
    (hremembered : t.context.currentSchema = some x) {args : Arguments}
    (hargs : Reader.Method.resolveSchema.signature.bind args = .ok args)
    (hneeds : t.frame.NeedsSchema (args.valueOr "schema" (.text ""))) :
    t.call .resolveSchema args = (.ok (.text x), t) := by
  have hinquiry : Reader.Method.resolveSchema.inquiry t.frame args =
      .currentSchema fun found => .done (.ok (.text found)) := by
    unfold Reader.Method.inquiry
    rw [hargs]
    change Inquiry.bind (t.frame.resolveSchema (args.valueOr "schema" (.text ""))) _ = _
    rw [Frame.resolveSchema_of_needs hneeds]
    rfl
  rw [call, hinquiry, Inquiry.exec, askCurrentSchema_of_remembered hremembered]
  rfl

/-- The current schema is asked for where it is needed, and not again once it was told. Over a
    stretch of calls in which the datasource is left alone otherwise, a query for it is the
    builder's query, and is run only for a caller who names no schema where there is no default and
    the engine has schemas. A question for it that came to an answer is followed by questions with
    the same answer, which change nothing. When such a query was answered, even by nothing, none is
    run after it, and looking a schema up gives what it told whenever the current one is needed. An
    answer may have no row or a first one with nothing in it, but a first row without any cell,
    which no database gives, is no answer. -/
theorem current_schema_asked_once {σ : Type} [Server σ] {s t : Session σ}
    {calls : List (ReaderCall σ)} (h : Stretch s calls t) :
    (∀ c ∈ calls, ∀ r ∈ c.runs, r.isForSchema →
      (c.schema.isTruthy = false ∧ c.session.context.defaultSchema = "" ∧
        ∃ d e q, c.session.context.active? = some (d, e) ∧ e.supports .schemas = true ∧
          Build.currentSchema e = .ok (some q) ∧
          r.request = ⟨q.sql e, q.args, "resolving current schema", none⟩)) ∧
    (calls.flatMap ReaderCall.schemaAsks).Pairwise (fun u v =>
      ∀ x, u.askCurrentSchema.1 = .ok x → v.askCurrentSchema = (.ok x, v)) ∧
    ∀ before r rest rows, calls.flatMap ReaderCall.runs = before ++ r :: rest → r.isForSchema →
      (r.session.run r.request).1 = .ok rows → rows.rows.head? ≠ some [] →
      (∀ r' ∈ rest, ¬r'.isForSchema) ∧
      ∀ args, Reader.Method.resolveSchema.signature.bind args = .ok args →
        t.frame.NeedsSchema (args.valueOr "schema" (.text "")) →
        t.call .resolveSchema args = (.ok (.text rows.toldSchema), t) := by
  refine ⟨fun c _ r hr => ReaderCall.of_isForSchema hr, h.same_answer, ?_⟩
  intro before r rest rows hruns hschema hrows hcells
  constructor
  · intro r' hr' hschema'
    have hlast := h.last_of_answered
    rw [hruns, List.filter_append, List.filter_cons_of_pos hschema] at hlast
    have hafter := List.rel_of_pairwise_cons (List.pairwise_append.mp hlast).2.1
      (List.mem_filter.mpr ⟨hr', hschema'⟩)
    exact hcells (hafter rows hrows)
  · intro args
    have hr : r ∈ calls.flatMap ReaderCall.runs := by
      rw [hruns]
      exact List.mem_append_right before List.mem_cons_self
    exact Session.call_resolveSchema (h.remembered_of_answered hr hschema hrows hcells)

/-- A session on MySQL, which has no default schema. The server is asked for the current one, fails
    at first and then says that there is none. -/
def schemaless : Session Script :=
  (Session.fresh "" {} {
    queues := [("main", [
      .reply { failure := some (.execute, "deadlock") },
      .reply { result := { columns := ["DATABASE()"], rows := [[.null]] } },
      .reply { result := { columns := ["found"], rows := [[.int 1]] } }])] }).after
    [.configure (.text "mysql") (some "main") none]

/-- Two calls, with other ceilings in between. -/
def twoCalls : List Step :=
  [.call .describeTable [("table", .text "orders")], .limit { pageSize := 5 },
    .call .tableExists [("table", .text "orders"), ("schema", .null)]]

/-- It is asked again after the failure. That there is none is remembered then, and the empty name
    is what a third call is told. -/
theorem current_schema_asked_once_schemaless :
    (((schemaless.readerCalls twoCalls).flatMap ReaderCall.runs).map fun r =>
        (r.request.operation, r.breakdown?)) =
      [("resolving current schema", some (.execute, "deadlock")),
        ("resolving current schema", none), ("checking table", none)] ∧
    (schemaless.after twoCalls).call .resolveSchema [] =
      (.ok (.text ""), schemaless.after twoCalls) := by
  obtain ⟨before, r, rest, hruns, hschema, hrows⟩ :
      ∃ before r rest, (schemaless.readerCalls twoCalls).flatMap ReaderCall.runs =
          before ++ r :: rest ∧ r.isForSchema = true ∧
        (r.session.run r.request).1 = .ok ⟨["DATABASE()"], [[.null]]⟩ :=
    ⟨[_], _, [_], rfl, rfl, rfl⟩
  obtain ⟨-, -, honce⟩ := current_schema_asked_once
    (@Stretch.after schemaless _ _ .start twoCalls (by decide))
  obtain ⟨-, htold⟩ := honce before r rest _ hruns hschema hrows (by simp)
  exact ⟨by decide +kernel, htold [] rfl ⟨rfl, by decide, .mysql, rfl, by decide⟩⟩

end SqlCatalog
