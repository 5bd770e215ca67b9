import SqlCatalog.Proofs.Session.Runs

/-!
# Failures of a Server

How a caller of the reader learns that the server failed. Whatever method is called, and
whichever of its queries it is, the query that failed is the last one of the call. A failure
to execute or to fetch is caught. It is put into the log, and comes as an error that names what
the query was run for. A failure to open the cursor or to close it does not: the cursor is
opened before the part of a run that is guarded and closed after it, and the caller is handed
what the server raised.

A query can fail twice. Its cursor is closed even when executing it has failed, and where that
fails too, the error that names the query is lost to the caller. The log still has it.

## Theorems

* `answer_of_breakdown`: The failures of a query tell the answer of the call.
-/

namespace SqlCatalog

namespace Session

variable {σ : Type} [Server σ] {s : Session σ} {m : Reader.Method} {args : Arguments}

/-- The log says more than the inquiry did only about a query that the gate refused. -/
theorem logs_call
    (h : ∀ rule reason, (s.call m args).1 ≠ .error (.error (.rejected rule reason))) :
    (s.call m args).2.logs = s.logs ++ (s.callRuns m args).flatMap Run.logs := by
  have hcourse := (m.inquiry s.frame args).course_exec s
  obtain ⟨hanswer, -⟩ := s.call_eq_exec m args
  rw [hanswer] at h
  refine Eq.trans ?_ hcourse.logs
  unfold call
  dsimp only
  split
  · rename_i hrefused
    exact absurd hrefused (h _ _)
  · rfl

/-- A query that breaks down is the last one of a call, which ends with its failure. Nothing was
    logged about the queries before it. -/
theorem call_of_breakdown {r : Run σ} {step : DriverStep} {message : String}
    (hr : r ∈ s.callRuns m args) (hbroken : r.breakdown? = some (step, message)) :
    (∃ before, s.callRuns m args = before ++ [r]) ∧
      (s.call m args).1 = .error (step.failure r.request.operation message) ∧
      (s.call m args).2.logs = s.logs ++ r.logs := by
  have hcourse := (m.inquiry s.frame args).course_exec s
  obtain ⟨⟨before, hruns⟩, hanswer⟩ := hcourse.of_breakdown hr hbroken
  rw [← (s.call_eq_exec m args).1] at hanswer
  have hearlier : before.flatMap Run.logs = [] := by
    have hpairs := hcourse.pairwise
    rw [hruns] at hpairs
    refine List.flatMap_eq_nil_iff.mpr fun r' hr' => Run.logs_eq_nil ?_
    exact (List.pairwise_append.mp hpairs).2.2 r' hr' r (List.mem_singleton_self r)
  refine ⟨⟨before, hruns⟩, hanswer, ?_⟩
  rw [logs_call (by rw [hanswer]; cases step <;> simp [DriverStep.failure, DriverStep.isGuarded]),
    callRuns, hruns, List.flatMap_append, hearlier, List.nil_append, List.flatMap_singleton]

end Session

/-- The failures of a query tell the answer of the call that ran it. The query is the last one of
    the call, and no query is missing: its events are those of the call. When the server failed to
    execute it or to hand out its rows, the log has that, and the answer names what the query was
    run for if and only if the cursor was closed without a failure. When the cursor could not be
    opened or closed, the answer is what the server raised there. -/
theorem answer_of_breakdown {σ : Type} [Server σ] (s : Session σ) (m : Reader.Method)
    (args : Arguments) :
    (s.call m args).2.events = s.events ++ (s.callRuns m args).flatMap Run.events ∧
      ∀ r ∈ s.callRuns m args, ∀ step message, (step, message) ∈ r.failures →
        (∃ before, s.callRuns m args = before ++ [r]) ∧
        (step ∈ [.execute, .fetch] →
          (s.call m args).2.logs = s.logs ++
            [⟨.datasource, .error, "Error " ++ r.request.operation ++ ": " ++ message⟩] ∧
          ((s.call m args).1 = .error (.error (.execution r.request.operation (some message))) ↔
            ∀ raw, (.closeCursor, raw) ∉ r.failures)) ∧
        (step ∈ [.cursor, .closeCursor] → (s.call m args).1 = .error (.raised message)) := by
  have hcourse := (m.inquiry s.frame args).course_exec s
  obtain ⟨-, hevents, -⟩ := s.call_eq_exec m args
  refine ⟨hevents.trans hcourse.events, fun r hr step message hfails => ?_⟩
  obtain ⟨last, text, hlast⟩ := Run.exists_breakdown hfails
  obtain ⟨hruns, -, hlogs⟩ := Session.call_of_breakdown hr hlast
  refine ⟨hruns, fun hstep => ?_, fun hstep => ?_⟩
  · have hguarded := DriverStep.isGuarded_iff.mpr hstep
    obtain ⟨hlogged, hdecides⟩ := Run.of_caught hfails hguarded
    refine ⟨hlogged ▸ hlogs, fun hnamed raw hcloses => ?_, fun hcloses => ?_⟩
    · -- What closing the cursor raised would be the answer.
      have hraised := Session.call_of_breakdown hr (Run.breakdown?_of_uncaught hcloses rfl)
      rw [hraised.2.1] at hnamed
      exact absurd hnamed (by simp [DriverStep.failure])
    · rw [(Session.call_of_breakdown hr (hdecides hcloses)).2.1, DriverStep.failure,
        if_pos hguarded]
  · have hraw := DriverStep.isGuarded_eq_false_iff.mpr hstep
    rw [(Session.call_of_breakdown hr (Run.breakdown?_of_uncaught hfails hraw)).2.1,
      DriverStep.failure, if_neg (by simp [hraw])]

/-- A session on which asking for the current schema fails. -/
def unansweredSchema : Session Script where
  context := { engine := some .mysql, connection := some "main" }
  server := {
    queues := [("main", [.reply { failure := some (.execute, "server has gone away") }])] }

/-- A session on which no row of a listing can be fetched, and its cursor cannot be closed. -/
def lostRows : Session Script where
  context := { engine := some .postgres, connection := some "main" }
  server := {
    queues := [("main", [.reply {
      result := { columns := ["table_name"] }
      failure := some (.fetch, "lost")
      closing := some "dead" }])] }

/-- The error of a lookup that never came to run its own query names the query that failed. A
    listing whose cursor cannot be closed either has its first failure in the log only. -/
theorem answer_names_failed_query :
    (∃ r ∈ unansweredSchema.callRuns .tableColumns [("table", .text "orders")],
      (.execute, "server has gone away") ∈ r.failures ∧
      (unansweredSchema.call .tableColumns [("table", .text "orders")]).1 =
        .error (.error (.execution "resolving current schema" (some "server has gone away")))) ∧
    (∃ r ∈ lostRows.callRuns .listTables [],
      r.failures = [(.fetch, "lost"), (.closeCursor, "dead")] ∧
      (lostRows.call .listTables []).1 = .error (.raised "dead") ∧
      (lostRows.call .listTables []).2.logs =
        [⟨.datasource, .error, "Error listing tables: lost"⟩]) := by
  obtain ⟨-, hschema⟩ :=
    answer_of_breakdown unansweredSchema .tableColumns [("table", .text "orders")]
  obtain ⟨-, hrows⟩ := answer_of_breakdown lostRows .listTables []
  refine ⟨⟨_, List.mem_singleton_self _, .head _, ?_⟩, _, List.mem_singleton_self _, rfl, ?_, ?_⟩
  · obtain ⟨-, hnamed, -⟩ := hschema _ (List.mem_singleton_self _) _ _ (.head _)
    exact (hnamed (.head _)).2.mpr fun raw hcloses =>
      absurd (List.mem_singleton.mp hcloses) (by simp)
  · exact (hrows _ (List.mem_singleton_self _) .closeCursor "dead" (.tail _ (.head _))).2.2
      (.tail _ (.head _))
  · exact ((hrows _ (List.mem_singleton_self _) .fetch "lost" (.head _)).2.1
      (.tail _ (.head _))).1

/-- A session on which no cursor can be opened. -/
def lostConnection : Session Script where
  context := { engine := some .postgres, connection := some "main" }
  server := { queues := [("main", [.noCursor "connection lost"])] }

/-- The caller of a reader is handed what the server raised when it opened no cursor. -/
theorem lost_cursor_is_raised :
    (∃ r ∈ lostConnection.callRuns .listTables [],
      r.failures = [(.cursor, "connection lost")]) ∧
    (lostConnection.call .listTables []).1 = .error (.raised "connection lost") ∧
    ∀ operation cause, (lostConnection.call .listTables []).1 ≠
      .error (.error (.execution operation cause)) := by
  have hanswer : (lostConnection.call .listTables []).1 = .error (.raised "connection lost") := rfl
  refine ⟨⟨_, List.mem_singleton_self _, rfl⟩, hanswer, fun operation cause => ?_⟩
  rw [hanswer]
  simp

end SqlCatalog
