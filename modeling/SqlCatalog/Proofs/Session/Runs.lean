import SqlCatalog.Reader.Method

/-!
# The Queries of an Inquiry

Which queries an inquiry runs, and how each of them ends. An inquiry chooses its next
question by the answers so far, and two of its three questions run a query only where the
session has not learnt the answer before, so the queries cannot be read off the inquiry.
They are listed here beside its course, each with the session on which it is run. That
nothing is missing from the list can be seen from the events: whatever a connection is asked
for, it is asked for while one of the listed queries is run.

All questions come out in one of three ways, which is what `Asked` says. What an inquiry
does to a session from its beginning to its end then is an induction on `Course`, and the
questions need not be looked at again.

A server can fail at four steps while a query is run. Failures to execute and to fetch are
caught and logged. Opening the cursor and closing it are not guarded, and what the server raises
there is passed on as it is. A cursor is closed whatever came before, so a query can fail twice,
and it is the last failure that decides. Either way the inquiry is over.

## Main definitions

* `DriverStep`: Where a server can fail while a query is run.
* `Run`: A query and the session it is run on.
* `Run.failures`, `Run.breakdown?`: The steps at which it fails, and the last of them.
* `Run.events`, `Run.logs`: What the connection is asked for, and what is logged.
* `Asked`, `Course`: How a question comes out, and how an inquiry does.
* `Inquiry.runs`, `Session.callRuns`: The queries of an inquiry, and of a call.

## Theorems

* `Session.run_of_breakdown`: A query that breaks down fails with what its step leads to.
* `Inquiry.runs_bind`: The queries of an inquiry after another come after those of the first.
* `Inquiry.course_exec`: An inquiry takes its course.
* `Course.recorded`: The events and the log of an inquiry are those of its queries.
* `Course.learns`: Besides its queries only what a session has learnt changes.
* `Course.of_error`, `Course.of_breakdown`: A query that fails is the last one, and its failure
  is how the inquiry ends.
* `Course.pairwise`: Only the last query of an inquiry breaks down.
-/

namespace SqlCatalog

/-- Where a server can fail while a query is run. -/
inductive DriverStep where
  | cursor
  | execute
  | fetch
  | closeCursor
deriving DecidableEq

namespace DriverStep

/-- Whether a failure at the step is caught. -/
def isGuarded : DriverStep → Bool
  | .execute | .fetch => true
  | .cursor | .closeCursor => false

@[simp]
theorem isGuarded_cursor : isGuarded .cursor = false := rfl

@[simp]
theorem isGuarded_closeCursor : isGuarded .closeCursor = false := rfl

theorem isGuarded_iff {step : DriverStep} :
    step.isGuarded = true ↔ step ∈ [.execute, .fetch] := by
  cases step <;> decide

theorem isGuarded_eq_false_iff {step : DriverStep} :
    step.isGuarded = false ↔ step ∈ [.cursor, .closeCursor] := by
  cases step <;> decide

/-- What a failure at the step leads to, given what the query was run for. -/
def failure (step : DriverStep) (operation message : String) : Failure :=
  if step.isGuarded then .error (.execution operation (some message)) else .raised message

end DriverStep

/-- The failure that is caught while a query is run, given the reply to it. A result without
    columns is not fetched, so a failure prepared for fetching it does not come to pass. -/
def Reply.caught? (r : Reply) : Option (DriverStep × String) :=
  match r.failure with
  | none => none
  | some (.execute, message) => some (.execute, message)
  | some (.fetch, message) =>
    if r.result.columns.isEmpty then none else some (.fetch, message)

/-- The failures of a query with its cursor open, in their order. Closing the cursor can fail
    whatever came before. -/
def Reply.failures (r : Reply) : List (DriverStep × String) :=
  r.caught?.toList ++ (r.closing.map (DriverStep.closeCursor, ·)).toList

/-- A query and the session it is run on. -/
structure Run (σ : Type) where
  request : Request
  session : Session σ

namespace Run

variable {σ : Type} [Server σ]

/-- The steps at which the query fails, and what the server says. -/
def failures (r : Run σ) : List (DriverStep × String) :=
  match r.session.requireConnection with
  | .error _ => []
  | .ok (c, _) =>
    match Server.openCursor c r.session.server with
    | (some message, _) => [(.cursor, message)]
    | (none, server) => (Server.execute c r.request.sql r.request.args server).1.failures

/-- The failure that decides how the query ends, which is the last one. -/
def breakdown? (r : Run σ) : Option (DriverStep × String) := r.failures.getLast?

/-- What is logged about the query: the failure that is caught. -/
def logs (r : Run σ) : List LogRecord :=
  r.failures.filterMap fun (step, message) =>
    if step.isGuarded then
      some ⟨.datasource, .error, "Error " ++ r.request.operation ++ ": " ++ message⟩
    else none

/-- What the connection is asked for while the query is run. -/
def events (r : Run σ) : List Event :=
  match r.session.requireConnection with
  | .error _ => []
  | .ok (c, _) =>
    match Server.openCursor c r.session.server with
    | (some _, _) => [⟨c, .cursor⟩]
    | (none, server) =>
      (.cursor :: r.request.actions (Server.execute c r.request.sql r.request.args server).1).map
        (⟨c, ·⟩)

end Run

/-! ### One query -/

namespace Reply

/-- What is caught is caught at a step. -/
theorem breakdown?_eq (r : Reply) : r.breakdown? = r.caught?.map Prod.snd := by
  unfold breakdown? caught?
  rcases r.failure with _ | ⟨_ | _, message⟩
  · rfl
  · rfl
  · dsimp only
    split <;> rfl

theorem isGuarded_of_caught? {r : Reply} {step : DriverStep} {message : String}
    (h : r.caught? = some (step, message)) : step.isGuarded = true := by
  unfold caught? at h
  rcases hfailure : r.failure with _ | ⟨_ | _, text⟩
  · simp [hfailure] at h
  · simp only [hfailure, Option.some.injEq, Prod.mk.injEq] at h
    rw [← h.1]
    rfl
  · simp only [hfailure, Option.ite_none_left_eq_some, Option.some.injEq, Prod.mk.injEq] at h
    rw [← h.2.1]
    rfl

theorem mem_failures {r : Reply} {step : DriverStep} {message : String} :
    (step, message) ∈ r.failures ↔
      r.caught? = some (step, message) ∨ step = .closeCursor ∧ r.closing = some message := by
  rw [failures, List.mem_append, Option.mem_toList, Option.mem_toList, Option.map_eq_some_iff]
  refine or_congr_right ⟨?_, fun ⟨hstep, hclosing⟩ => ⟨message, hclosing, by rw [hstep]⟩⟩
  rintro ⟨text, hclosing, heq⟩
  obtain ⟨rfl, rfl⟩ := Prod.mk.inj heq
  exact ⟨rfl, hclosing⟩

/-- The last failure is the one to close the cursor, if that fails. -/
theorem getLast?_failures (r : Reply) :
    r.failures.getLast? = (r.closing.map (DriverStep.closeCursor, ·)).or r.caught? := by
  unfold failures
  cases r.closing with
  | none => cases r.caught? <;> rfl
  | some message => simp

/-- What is logged are the failures that are caught. -/
theorem notes_eq (q : Request) (r : Reply) :
    q.notes r = r.failures.filterMap fun (step, message) =>
      if step.isGuarded then
        some ⟨.datasource, .error, "Error " ++ q.operation ++ ": " ++ message⟩
      else none := by
  rw [Request.notes, r.breakdown?_eq, failures]
  rcases hcaught : r.caught? with _ | ⟨step, message⟩
  · cases r.closing <;> rfl
  · have hguarded := isGuarded_of_caught? hcaught
    cases r.closing <;> simp [hguarded]

/-- What comes of a query is what its last failure leads to. -/
theorem outcome_of_failure {q : Request} {r : Reply} {step : DriverStep} {message : String}
    (h : r.failures.getLast? = some (step, message)) :
    q.outcome r = .error (step.failure q.operation message) := by
  rw [getLast?_failures] at h
  rw [Request.outcome, r.breakdown?_eq]
  cases hclosing : r.closing with
  | none =>
      -- The cursor was closed, so the failure is the one that was caught.
      have hcaught : r.caught? = some (step, message) := by rwa [hclosing] at h
      rw [hcaught, DriverStep.failure, if_pos (isGuarded_of_caught? hcaught)]
      rfl
  | some text =>
      rw [hclosing] at h
      obtain ⟨rfl, rfl⟩ := Prod.mk.inj (Option.some.inj h)
      rfl

end Reply

namespace Session

variable {σ : Type} [Server σ]

/-- Running a query does not touch the datasource. -/
theorem context_run (q : Request) (s : Session σ) : (s.run q).2.context = s.context := by
  unfold run
  split
  · rfl
  · split <;> rfl

theorem events_run (q : Request) (s : Session σ) :
    (s.run q).2.events = s.events ++ (Run.mk q s).events := by
  unfold run Run.events
  rcases s.requireConnection with f | ⟨c, e⟩
  · exact (List.append_nil _).symm
  · dsimp only
    rcases Server.openCursor c s.server with ⟨_ | refusal, server⟩ <;> rfl

/-- The log has what is caught, whether the cursor can be closed after it or not. -/
theorem logs_run (q : Request) (s : Session σ) :
    (s.run q).2.logs = s.logs ++ (Run.mk q s).logs := by
  unfold run Run.logs Run.failures
  rcases s.requireConnection with f | ⟨c, e⟩
  · exact (List.append_nil _).symm
  · dsimp only
    rcases Server.openCursor c s.server with ⟨_ | refusal, server⟩
    · exact congrArg (s.logs ++ ·) (Reply.notes_eq q _)
    · exact (List.append_nil _).symm

/-- A query that breaks down fails with what its step leads to. -/
theorem run_of_breakdown {q : Request} {s : Session σ} {step : DriverStep} {message : String}
    (h : (Run.mk q s).breakdown? = some (step, message)) :
    (s.run q).1 = .error (step.failure q.operation message) := by
  revert h
  unfold Run.breakdown? Run.failures run
  rcases s.requireConnection with f | ⟨c, e⟩
  · exact fun h => absurd h (by simp)
  · dsimp only
    rcases Server.openCursor c s.server with ⟨_ | refusal, server⟩
    · exact Reply.outcome_of_failure
    · intro h
      obtain ⟨rfl, rfl⟩ := Prod.mk.inj (Option.some.inj h)
      rfl

end Session

namespace Run

variable {σ : Type} [Server σ] {r : Run σ} {step : DriverStep} {message : String}

/-- A query fails where its cursor cannot be opened, or as the reply to it says. -/
theorem failures_cases (h : (step, message) ∈ r.failures) :
    (r.failures = [(.cursor, message)] ∧ step = .cursor) ∨
      ∃ reply : Reply, r.failures = reply.failures := by
  unfold failures at h ⊢
  split at h
  · exact absurd h List.not_mem_nil
  · split at h
    · obtain ⟨rfl, rfl⟩ := Prod.mk.inj (List.mem_singleton.mp h)
      exact .inl ⟨rfl, rfl⟩
    · exact .inr ⟨_, rfl⟩

theorem exists_breakdown (h : (step, message) ∈ r.failures) :
    ∃ last text, r.breakdown? = some (last, text) := by
  rcases hlast : r.breakdown? with _ | ⟨last, text⟩
  · rw [List.getLast?_eq_none_iff.mp hlast] at h
    exact absurd h List.not_mem_nil
  · exact ⟨last, text, rfl⟩

/-- A failure that is not caught is the one that decides. -/
theorem breakdown?_of_uncaught (h : (step, message) ∈ r.failures) (hraw : step.isGuarded = false) :
    r.breakdown? = some (step, message) := by
  rcases failures_cases h with ⟨hopen, rfl⟩ | ⟨reply, hreply⟩
  · rw [breakdown?, hopen]
    rfl
  · rw [breakdown?, hreply, Reply.getLast?_failures]
    rcases Reply.mem_failures.mp (hreply ▸ h) with hcaught | ⟨rfl, hclosing⟩
    · exact absurd (Reply.isGuarded_of_caught? hcaught) (by simp [hraw])
    · rw [hclosing]
      rfl

/-- A failure that is caught is logged. It is the one that decides, unless closing the cursor
    fails after it. -/
theorem of_caught (h : (step, message) ∈ r.failures) (hguarded : step.isGuarded = true) :
    r.logs = [⟨.datasource, .error, "Error " ++ r.request.operation ++ ": " ++ message⟩] ∧
      ((∀ raw, (.closeCursor, raw) ∉ r.failures) → r.breakdown? = some (step, message)) := by
  rcases failures_cases h with ⟨-, rfl⟩ | ⟨reply, hreply⟩
  · exact absurd hguarded (by decide)
  · rw [logs, breakdown?, hreply, Reply.getLast?_failures]
    rcases Reply.mem_failures.mp (hreply ▸ h) with hcaught | ⟨rfl, -⟩
    · constructor
      · cases hclosing : reply.closing <;>
          simp [Reply.failures, hcaught, hclosing, hguarded]
      · intro hcloses
        cases hclosing : reply.closing with
        | none => exact hcaught
        | some raw => exact absurd (Reply.mem_failures.mpr (.inr ⟨rfl, hclosing⟩)) (hcloses raw)
    · exact absurd hguarded (by decide)

/-- A query that does not break down leaves nothing in the log. -/
theorem logs_eq_nil (h : r.breakdown? = none) : r.logs = [] := by
  rw [logs, List.getLast?_eq_none_iff.mp h]
  rfl

end Run

/-! ### One question -/

/-- What the datasource of a session becomes while questions are answered: it stays what it
    is, a schema that is remembered stays remembered, and the cache keeps its bound. -/
structure Context.Learns (c d : Context) : Prop where
  engine : d.engine = c.engine
  builder : d.builder = c.builder
  connection : d.connection = c.connection
  override : d.override = c.override
  currentSchema : ∀ schema, c.currentSchema = some schema → d.currentSchema = some schema
  capacity : d.cache.capacity = c.cache.capacity

namespace Context.Learns

theorem refl (c : Context) : Learns c c := ⟨rfl, rfl, rfl, rfl, fun _ h => h, rfl⟩

theorem trans {c d e : Context} (h : Learns c d) (h' : Learns d e) : Learns c e where
  engine := h'.engine.trans h.engine
  builder := h'.builder.trans h.builder
  connection := h'.connection.trans h.connection
  override := h'.override.trans h.override
  currentSchema schema hs := h'.currentSchema schema (h.currentSchema schema hs)
  capacity := h'.capacity.trans h.capacity

theorem withCache (c : Context) {cache : ColumnCache} (h : cache.capacity = c.cache.capacity) :
    Learns c { c with cache } := ⟨rfl, rfl, rfl, rfl, fun _ hs => hs, h⟩

end Context.Learns

/-- How a question to a session comes out. It is answered without a query, or one query is
    run on the session as it is; a query that fails is the failure of the question. Besides
    the query only what the session has learnt changes. -/
inductive Asked {σ α : Type} [Server σ] (s : Session σ) :
    List (Run σ) → Outcome α × Session σ → Prop
  | known (outcome : Outcome α) {context : Context} (h : s.context.Learns context) :
      Asked s [] (outcome, { s with context })
  | failed {q : Request} {f : Failure} {t : Session σ} (hrun : s.run q = (.error f, t)) :
      Asked s [⟨q, s⟩] (.error f, t)
  | answered {q : Request} {r : ResultSet} {t : Session σ} (hrun : s.run q = (.ok r, t))
      (outcome : Outcome α) {context : Context} (h : t.context.Learns context) :
      Asked s [⟨q, s⟩] (outcome, { t with context })

namespace Asked

variable {σ α : Type} [Server σ] {s : Session σ} {runs : List (Run σ)}
  {answer : Outcome α × Session σ}

/-- What a session keeps a record of is recorded while queries are run, and not when something
    is learnt. -/
theorem recorded {β : Type} {record : Session σ → List β} {more : Run σ → List β}
    (hrun : ∀ (q : Request) (s : Session σ), record (s.run q).2 = record s ++ more ⟨q, s⟩)
    (hlearn : ∀ (s : Session σ) (context : Context), record { s with context } = record s)
    (h : Asked s runs answer) : record answer.2 = record s ++ runs.flatMap more := by
  cases h with
  | known outcome h => simp [hlearn]
  | failed heq => simp [← hrun, heq]
  | answered heq outcome h => simp [hlearn, ← hrun, heq]

theorem learns (h : Asked s runs answer) : s.context.Learns answer.2.context := by
  cases h with
  | known outcome h => exact h
  | @failed q f t hrun =>
      have hcontext := Session.context_run q s
      rw [hrun] at hcontext
      exact hcontext ▸ .refl _
  | @answered q r t hrun outcome context h =>
      have hcontext := Session.context_run q s
      rw [hrun] at hcontext
      exact hcontext ▸ h

/-- A query that fails is the only one, and its failure is the answer. -/
theorem of_error (h : Asked s runs answer) {r : Run σ} {f : Failure} (hr : r ∈ runs)
    (hfails : (r.session.run r.request).1 = .error f) : runs = [r] ∧ answer.1 = .error f := by
  cases h with
  | known outcome h => exact absurd hr List.not_mem_nil
  | failed hrun =>
      obtain rfl := List.mem_singleton.mp hr
      rw [hrun] at hfails
      exact ⟨rfl, congrArg Except.error (Except.error.inj hfails)⟩
  | answered hrun outcome h =>
      -- The query was answered, so it did not fail.
      obtain rfl := List.mem_singleton.mp hr
      rw [hrun] at hfails
      exact absurd hfails (by simp)

/-- A question runs one query at most. -/
theorem pairwise (h : Asked s runs answer) (R : Run σ → Run σ → Prop) :
    runs.Pairwise R := by
  cases h with
  | known outcome h => exact .nil
  | failed hrun | answered hrun => exact List.pairwise_singleton R _

end Asked

namespace ColumnCache

/-- A cache is as it was when it does not have a list and loading it fails. -/
theorem ask_of_failure {c : ColumnCache} {k : String} (hmiss : c.hit? k = none)
    (f : Failure) : c.ask k (.error f) = ⟨.error f, true, c⟩ := by
  simp only [ask, hmiss]

/-- Using a list keeps the bound. -/
theorem capacity_hit? {c d : ColumnCache} {k : String} {columns : List Value}
    (h : c.hit? k = some (columns, d)) : d.capacity = c.capacity := by
  rw [hit?, Option.map_eq_some_iff] at h
  obtain ⟨found, -, heq⟩ := h
  rw [← (Prod.mk.inj heq).2]

/-- So does asking for one. -/
theorem capacity_ask (c : ColumnCache) (k : String) (load : Outcome (List Value)) :
    (c.ask k load).cache.capacity = c.capacity := by
  unfold ask
  split
  · rename_i columns cache hhit
    exact capacity_hit? hhit
  · split
    · rfl
    · unfold store
      split
      · rename_i cache hstore
        split at hstore
        · exact absurd hstore (by simp)
        · rw [← Except.ok.inj hstore]
      · rfl

end ColumnCache

namespace Session

variable {σ : Type} [Server σ]

/-- The queries that telling the current schema runs: one, unless it is remembered. -/
def currentSchemaRuns (s : Session σ) : List (Run σ) :=
  match s.context.currentSchema, s.requireConnection with
  | none, .ok (_, e) =>
    match Build.currentSchema e with
    | .ok (some q) => [⟨⟨q.sql e, q.args, "resolving current schema", none⟩, s⟩]
    | _ => []
  | _, _ => []

/-- The queries that telling the columns of a table runs: none, where they are cached. -/
def columnRuns (e : Engine) (schema : String) (table : Value) (s : Session σ) : List (Run σ) :=
  match columnKey e schema table with
  | .error _ => []
  | .ok key =>
    match s.context.cache.hit? key, Build.getTableSchemaFull e table (.text schema) with
    | none, .ok (some q) => [⟨⟨q.sql e, q.args, "getting columns", none⟩, s⟩]
    | _, _ => []

theorem asked_run (q : Request) (s : Session σ) : Asked s [⟨q, s⟩] (s.run q) := by
  rcases hrun : s.run q with ⟨f | r, t⟩
  · exact .failed hrun
  · exact .answered hrun (.ok r) (.refl t.context)

theorem asked_currentSchema (s : Session σ) :
    Asked s s.currentSchemaRuns s.askCurrentSchema := by
  unfold askCurrentSchema currentSchemaRuns
  rcases hschema : s.context.currentSchema with _ | schema
  · rcases s.requireConnection with f | ⟨c, e⟩
    · exact .known _ (.refl s.context)
    · dsimp only
      rcases Build.currentSchema e with f | _ | q
      · exact .known _ (.refl s.context)
      · exact .known _ (.refl s.context)
      · dsimp only
        have hcontext := context_run ⟨q.sql e, q.args, "resolving current schema", none⟩ s
        rcases hrun : s.run ⟨q.sql e, q.args, "resolving current schema", none⟩ with ⟨f | r, t⟩
        · exact .failed hrun
        · dsimp only
          rcases namedSchema r with f | schema
          · exact .answered hrun _ (.refl t.context)
          · -- Nothing was remembered before, so nothing is forgotten.
            rw [hrun] at hcontext
            have hnone : t.context.currentSchema = none := by rw [← hschema, ← hcontext]
            exact .answered hrun _ ⟨rfl, rfl, rfl, rfl, fun x hx => by simp [hnone] at hx, rfl⟩
  · exact .known _ (.refl s.context)

theorem asked_columns (e : Engine) (schema : String) (table : Value) (s : Session σ) :
    Asked s (s.columnRuns e schema table) (s.askColumns e schema table) := by
  unfold askColumns columnRuns
  rcases columnKey e schema table with f | key
  · exact .known _ (.refl s.context)
  · dsimp only
    rcases hhit : s.context.cache.hit? key with _ | ⟨columns, cache⟩
    · unfold loadColumns
      rcases Build.getTableSchemaFull e table (.text schema) with f | _ | q
      · dsimp only
        rw [ColumnCache.ask_of_failure hhit]
        exact .known _ (.refl s.context)
      · dsimp only [refuse]
        rw [ColumnCache.ask_of_failure hhit]
        exact .known _ (.refl s.context)
      · dsimp only
        have hcontext := context_run ⟨q.sql e, q.args, "getting columns", none⟩ s
        rcases hrun : s.run ⟨q.sql e, q.args, "getting columns", none⟩ with ⟨f | r, t⟩
        · -- The failed query left the cache as it was, so the list is missing still, and a
          -- cache that lacks it keeps nothing of a failure.
          rw [hrun] at hcontext
          dsimp only at hcontext ⊢
          rw [ColumnCache.ask_of_failure (by rw [hcontext, hhit])]
          exact .failed hrun
        · exact .answered hrun _ (.withCache t.context (ColumnCache.capacity_ask _ _ _))
    · exact .known _ (.withCache s.context (ColumnCache.capacity_hit? hhit))

end Session

/-! ### One question after the other -/

/-- The course of an inquiry: the queries that are run, and how it ends. A question that
    fails is the last one. -/
inductive Course {σ α : Type} [Server σ] :
    Session σ → List (Run σ) → Outcome α × Session σ → Prop
  | done (outcome : Outcome α) (s : Session σ) : Course s [] (outcome, s)
  | failed {β : Type} {s t : Session σ} {runs : List (Run σ)} {f : Failure}
      (h : Asked s runs ((.error f : Outcome β), t)) : Course s runs (.error f, t)
  | next {β : Type} {s t : Session σ} {runs more : List (Run σ)} {b : β}
      {answer : Outcome α × Session σ} (h : Asked s runs (.ok b, t))
      (rest : Course t more answer) : Course s (runs ++ more) answer

namespace Course

variable {σ α : Type} [Server σ] {s : Session σ} {runs : List (Run σ)}
  {answer : Outcome α × Session σ}

/-- The records of an inquiry are those of its queries. -/
theorem recorded {β : Type} {record : Session σ → List β} {more : Run σ → List β}
    (hrun : ∀ (q : Request) (s : Session σ), record (s.run q).2 = record s ++ more ⟨q, s⟩)
    (hlearn : ∀ (s : Session σ) (context : Context), record { s with context } = record s)
    (h : Course s runs answer) : record answer.2 = record s ++ runs.flatMap more := by
  induction h with
  | done outcome s => simp
  | failed h => exact (h.recorded hrun hlearn :)
  | next h rest ih => rw [ih, h.recorded hrun hlearn, List.flatMap_append, List.append_assoc]

theorem events (h : Course s runs answer) :
    answer.2.events = s.events ++ runs.flatMap Run.events :=
  h.recorded Session.events_run fun _ _ => rfl

theorem logs (h : Course s runs answer) : answer.2.logs = s.logs ++ runs.flatMap Run.logs :=
  h.recorded Session.logs_run fun _ _ => rfl

theorem learns (h : Course s runs answer) : s.context.Learns answer.2.context := by
  induction h with
  | done outcome s => exact .refl _
  | failed h => exact h.learns
  | next h rest ih => exact h.learns.trans ih

/-- After a query that fails there is no other one, and its failure is how the inquiry ends. -/
theorem of_error (h : Course s runs answer) {r : Run σ} {before rest : List (Run σ)}
    {f : Failure} (hruns : runs = before ++ r :: rest)
    (hfails : (r.session.run r.request).1 = .error f) : rest = [] ∧ answer.1 = .error f := by
  induction h generalizing before with
  | done outcome s => exact absurd hruns.symm (by simp)
  | failed h =>
      obtain ⟨hsingle, hanswer⟩ := h.of_error (by rw [hruns]; simp) hfails
      rw [hruns, List.append_eq_singleton_iff] at hsingle
      refine ⟨?_, congrArg Except.error (Except.error.inj hanswer)⟩
      rcases hsingle with ⟨-, hlast⟩ | ⟨-, hnone⟩
      · exact (List.cons.inj hlast).2
      · exact absurd hnone (by simp)
  | @next β s t first more b answer h course ih =>
      rcases List.append_eq_append_iff.mp hruns with ⟨between, -, hmore⟩ | ⟨between, hfirst, hmore⟩
      · exact ih hmore
      · rcases between with _ | ⟨other, between⟩
        · exact ih (show more = [] ++ r :: rest from hmore.symm)
        · -- The question was answered, so none of its queries failed.
          obtain ⟨rfl, -⟩ := List.cons.inj hmore
          exact absurd (h.of_error (by rw [hfirst]; simp) hfails).2 (by simp)

/-- A query that breaks down is the last one, and its failure is how the inquiry ends. -/
theorem of_breakdown (h : Course s runs answer) {r : Run σ} {step : DriverStep}
    {message : String} (hr : r ∈ runs) (hbroken : r.breakdown? = some (step, message)) :
    (∃ before, runs = before ++ [r]) ∧
      answer.1 = .error (step.failure r.request.operation message) := by
  obtain ⟨before, rest, hruns⟩ := List.append_of_mem hr
  obtain ⟨rfl, hanswer⟩ := h.of_error hruns (Session.run_of_breakdown hbroken)
  exact ⟨⟨before, hruns⟩, hanswer⟩

/-- A query that is followed by another one did not break down, by induction on the course. -/
theorem pairwise (h : Course s runs answer) :
    runs.Pairwise fun r _ => r.breakdown? = none := by
  induction h with
  | done outcome s => exact .nil
  | failed h => exact h.pairwise _
  | next h rest ih =>
      refine List.pairwise_append.mpr ⟨h.pairwise _, ih, fun r hr _ _ => ?_⟩
      -- The question was answered, which it is not when its query breaks down.
      rcases hbroken : r.breakdown? with _ | ⟨step, message⟩
      · rfl
      · exact absurd (h.of_error hr (Session.run_of_breakdown hbroken)).2 (by simp)

end Course

namespace Inquiry

variable {σ α : Type} [Server σ]

/-- The queries of an inquiry, each with the session on which it is run. -/
def runs : Inquiry α → Session σ → List (Run σ)
  | .done _, _ => []
  | .run q next, s =>
    [⟨q, s⟩] ++ match s.run q with
      | (.error _, _) => []
      | (.ok r, s) => (next r).runs s
  | .currentSchema next, s =>
    s.currentSchemaRuns ++ match s.askCurrentSchema with
      | (.error _, _) => []
      | (.ok schema, s) => (next schema).runs s
  | .columns e schema table next, s =>
    s.columnRuns e schema table ++ match s.askColumns e schema table with
      | (.error _, _) => []
      | (.ok names, s) => (next names).runs s

/-- The queries of an inquiry after another are those of the first one, and then its own on
    the session that the first one leaves. -/
theorem runs_bind {β : Type} (i : Inquiry α) (f : α → Inquiry β) (s : Session σ) :
    (i.bind f).runs s = i.runs s ++ match i.exec s with
      | (.error _, _) => []
      | (.ok a, t) => (f a).runs t := by
  induction i generalizing s with
  | done outcome => cases outcome <;> rfl
  | run q next ih =>
      simp only [bind, runs, exec, List.append_assoc]
      rcases s.run q with ⟨f | r, t⟩
      · rfl
      · exact congrArg _ (ih r t)
  | currentSchema next ih =>
      simp only [bind, runs, exec, List.append_assoc]
      rcases s.askCurrentSchema with ⟨f | schema, t⟩
      · rfl
      · exact congrArg _ (ih schema t)
  | columns e schema table next ih =>
      simp only [bind, runs, exec, List.append_assoc]
      rcases s.askColumns e schema table with ⟨f | names, t⟩
      · rfl
      · exact congrArg _ (ih names t)

/-- The queries after a step that asks nothing are those that follow its result. -/
theorem mem_runs_done_bind {β : Type} {x : Outcome α} {f : α → Inquiry β} {s : Session σ}
    {r : Run σ} (h : r ∈ ((done x).bind f).runs s) : ∃ a, x = .ok a ∧ r ∈ (f a).runs s := by
  cases x with
  | error failure => exact absurd h List.not_mem_nil
  | ok a => exact ⟨a, rfl, h⟩

/-- The query of an operation comes before those that follow its answer. -/
theorem mem_runs_fetch_bind {β : Type} {e : Engine} {operation lacking : String}
    {q : Option Query} {f : ResultSet → Inquiry β} {s : Session σ} {r : Run σ}
    (h : r ∈ ((fetch e operation q lacking).bind f).runs s) :
    (∃ query, q = some query ∧ r.request = ⟨query.sql e, query.args, operation, none⟩) ∨
      ∃ rows t, r ∈ (f rows).runs t := by
  cases q with
  | none => exact absurd h List.not_mem_nil
  | some query =>
      rw [fetch, bind, runs] at h
      rcases List.mem_append.mp h with hfirst | hrest
      · exact .inl ⟨query, rfl, by rw [List.mem_singleton.mp hfirst]⟩
      · rcases hrun : s.run ⟨query.sql e, query.args, operation, none⟩ with ⟨failure | rows, t⟩
        · rw [hrun] at hrest
          exact absurd hrest List.not_mem_nil
        · rw [hrun] at hrest
          exact .inr ⟨rows, t, hrest⟩

/-- An inquiry takes its course, by induction on its questions. -/
theorem course_exec (i : Inquiry α) (s : Session σ) : Course s (i.runs s) (i.exec s) := by
  -- The session changes from question to question, so the induction is for all sessions.
  induction i generalizing s with
  | done outcome => exact .done outcome s
  | run q next ih =>
      have hasked := Session.asked_run q s
      rw [exec, runs]
      rcases heq : s.run q with ⟨f | r, t⟩
      · rw [heq] at hasked
        simpa using Course.failed hasked
      · rw [heq] at hasked
        exact .next hasked (ih r t)
  | currentSchema next ih =>
      have hasked := Session.asked_currentSchema s
      rw [exec, runs]
      rcases heq : s.askCurrentSchema with ⟨f | schema, t⟩
      · rw [heq] at hasked
        simpa using Course.failed hasked
      · rw [heq] at hasked
        exact .next hasked (ih schema t)
  | columns e schema table next ih =>
      have hasked := Session.asked_columns e schema table s
      rw [exec, runs]
      rcases heq : s.askColumns e schema table with ⟨f | names, t⟩
      · rw [heq] at hasked
        simpa using Course.failed hasked
      · rw [heq] at hasked
        exact .next hasked (ih names t)

end Inquiry

/-! ### A call -/

namespace Session

variable {σ : Type} [Server σ]

/-- The queries of a call, each with the session on which it is run. -/
def callRuns (s : Session σ) (m : Reader.Method) (args : Arguments) : List (Run σ) :=
  (m.inquiry s.frame args).runs s

/-- A call has the answer and the events of its inquiry, and leaves the datasource that its
    inquiry leaves. Only the log may say more. -/
theorem call_eq_exec (s : Session σ) (m : Reader.Method) (args : Arguments) :
    (s.call m args).1 = ((m.inquiry s.frame args).exec s).1 ∧
      (s.call m args).2.events = ((m.inquiry s.frame args).exec s).2.events ∧
      (s.call m args).2.context = ((m.inquiry s.frame args).exec s).2.context := by
  unfold call
  dsimp only
  split <;> exact ⟨rfl, rfl, rfl⟩

/-- A call changes what a session has learnt, and else nothing of its datasource. -/
theorem learns_call (s : Session σ) (m : Reader.Method) (args : Arguments) :
    s.context.Learns (s.call m args).2.context := by
  obtain ⟨-, -, hcontext⟩ := s.call_eq_exec m args
  rw [hcontext]
  exact ((m.inquiry s.frame args).course_exec s).learns

end Session

end SqlCatalog
