import SqlCatalog.Proofs.Session.Runs

/-!
# Queries of a Caller

The one query of the reader whose text is not the library's own. The gate stands before
everything else, so a text that it refuses is refused on every session alike, also on one that
nothing is connected to, and the server is not asked for so much as a cursor.

A query that passes is handed over as the caller wrote it. Whether its answer was cut off cannot
be seen from the rows that are given, because a result may end just there. So one row more is
fetched than is given, and what is left over of it is the flag.

## Main definitions

* `Limits.rowsFor`: How many rows a query of a caller is given.
* `Session.Answered`: The server answers a query without a failure.

## Theorems

* `Reader.rowCap_eq`: That many are given when the caller says a whole number or nothing.
* `firstRows_cut`: One row more than is given tells whether there are more.
* `Session.run_of_answered`: A query that is answered without a failure gives what was fetched.
* `free_query_gated_and_cut`: A query of a caller is refused before anything is asked, or its
  answer is cut where it should be and says so.
-/

namespace SqlCatalog

namespace Limits

/-- How many rows a query of a caller is given: as many as the caller wants when that is any, else
    the default number, and never more than the ceiling. -/
def rowsFor (l : Limits) (wanted : Option Int) : Int :=
  min ((wanted.filter (0 < ·)).getD ResultSet.defaultRows) l.queryRows

theorem rowsFor_some (l : Limits) (n : Int) :
    l.rowsFor (some n) = min (if n ≤ 0 then ResultSet.defaultRows else n) l.queryRows := by
  rcases Int.lt_or_le 0 n with hpositive | hpositive
  · simp [rowsFor, Option.filter, hpositive, Int.not_le.mpr hpositive]
  · simp [rowsFor, Option.filter, hpositive, Int.not_lt.mpr hpositive]

/-- A caller is given at least one row where the ceiling allows it. -/
theorem one_le_rowsFor {l : Limits} (h : 1 ≤ l.queryRows) (wanted : Option Int) :
    1 ≤ l.rowsFor wanted := by
  have hdefault : 1 ≤ ResultSet.defaultRows := by decide
  cases wanted with
  | none => exact Int.le_min.mpr ⟨hdefault, h⟩
  | some n =>
      rw [rowsFor_some]
      refine Int.le_min.mpr ⟨?_, h⟩
      split <;> omega

end Limits

namespace Reader

/-- A caller who says a whole number or nothing is given as many rows as that stands for. -/
theorem rowCap_eq {maxRows : Value} (h : maxRows = .null ∨ maxRows.whole?.isSome) (l : Limits) :
    rowCap maxRows l.queryRows = .ok (l.rowsFor maxRows.whole?) := by
  cases maxRows with
  | null => rfl
  | bool b =>
      rw [Value.whole?, Limits.rowsFor_some]
      cases b <;> rfl
  | int n =>
      rw [Value.whole?, Limits.rowsFor_some]
      by_cases hn : n = 0
      · rw [hn]
        rfl
      · simp [rowCap, Value.isTruthy, Value.whole?, hn]
  | _ => exact absurd h (by simp [Value.whole?])

/-- A query that the gate refuses asks nothing. -/
theorem executeQuery_of_verdict {sql : String} {r : Gate.Rejection}
    (h : Gate.verdict sql.toList = some r) (f : Frame) (maxRows : Value) :
    executeQuery f sql maxRows = .done (refuse (.rejected r.rule r.reason)) := by
  unfold executeQuery Gate.pass
  rw [h]
  rfl

/-- A query that passes is run as it is, with one row more than is given. -/
theorem executeQuery_of_pass {sql : String} (h : Gate.verdict sql.toList = none) {f : Frame}
    {maxRows : Value} {cap : Int} (hcap : rowCap maxRows f.limits.queryRows = .ok cap) :
    executeQuery f sql maxRows =
      .run ⟨sql, [], "executing query", some (cap + 1)⟩ fun r =>
        .done (.ok ⟨{ r with rows := firstRows cap r.rows }, decide (cap < r.rows.length)⟩) := by
  unfold executeQuery Gate.pass
  rw [h, hcap]
  rfl

end Reader

/-- Of the rows that are fetched those are given that a caller may have, and the one that is left
    over tells whether there are more. -/
theorem firstRows_cut {cap : Int} (hcap : 0 ≤ cap) (rows : List Row) :
    firstRows cap (firstRows (cap + 1) rows) = rows.take cap.toNat ∧
      (cap < (firstRows (cap + 1) rows).length ↔ cap < rows.length) := by
  have hfetched : firstRows (cap + 1) rows = rows.take (cap.toNat + 1) := by
    rw [firstRows, if_neg (by omega), Int.toNat_add hcap (by decide)]
    rfl
  rw [hfetched]
  constructor
  · rw [firstRows, if_neg (by omega), List.take_take, Nat.min_eq_left (Nat.le_succ _)]
  · rw [List.length_take]
    omega

namespace Session

variable {σ : Type} [Server σ]

/-- The server answers a query of a session without a failure. -/
structure Answered (s : Session σ) (sql : String) (args : List Value) (c : ConnectionName)
    (reply : Reply) (next : σ) : Prop where
  isConnected : ∃ e, s.context.active? = some (c, e)
  executes : ∃ server, Server.openCursor c s.server = (none, server) ∧
    Server.execute c sql args server = (reply, next)
  whole : reply.failure = none
  closes : reply.closing = none

/-- A query that is answered without a failure gives what was fetched. -/
theorem run_of_answered {s : Session σ} {q : Request} {c : ConnectionName} {r : Reply} {next : σ}
    (h : s.Answered q.sql q.args c r next) :
    s.run q = (.ok (q.fetched r), { s with server := next }.record c (.cursor :: q.actions r)) := by
  obtain ⟨⟨e, hactive⟩, ⟨server, hopen, hreply⟩, hwhole, hcloses⟩ := h
  have hconnection : s.requireConnection = .ok (c, e) := by
    rw [requireConnection, hactive]
  have hunbroken : r.breakdown? = none := by
    rw [Reply.breakdown?, hwhole]
  have houtcome : q.outcome r = .ok (q.fetched r) := by
    rw [Request.outcome, hcloses, hunbroken]
  have hnotes : q.notes r = [] := by
    rw [Request.notes, hunbroken]
    rfl
  unfold run
  simp only [hconnection, hopen, hreply, houtcome, hnotes, List.append_nil]

end Session

namespace Reader

variable {σ : Type} [Server σ]

/-- The answer to a query that passes and is answered has the first rows of the reply. -/
theorem exec_executeQuery {s : Session σ} {f : Frame} {sql : String} {maxRows : Value} {cap : Int}
    {c : ConnectionName} {reply : Reply} {next : σ} (hpass : Gate.verdict sql.toList = none)
    (hrows : rowCap maxRows f.limits.queryRows = .ok cap) (hcap : 0 ≤ cap)
    (h : s.Answered sql [] c reply next) (hcolumns : reply.result.columns ≠ []) :
    (executeQuery f sql maxRows).exec s =
      (.ok ⟨{ reply.result with rows := reply.result.rows.take cap.toNat },
          decide (cap < reply.result.rows.length)⟩,
        { s with server := next }.record c
          [.cursor, .execute sql [], .fetchMany (cap + 1), .closeCursor]) := by
  have hfull : reply.result.columns.isEmpty = false := by simpa using hcolumns
  obtain ⟨hcut, hmore⟩ := firstRows_cut hcap reply.result.rows
  have hrun := Session.run_of_answered (q := ⟨sql, [], "executing query", some (cap + 1)⟩) h
  simp only [Request.fetched, Request.actions, hfull, h.whole, Bool.false_eq_true, if_false] at hrun
  rw [executeQuery_of_pass hpass hrows, Inquiry.exec, hrun]
  simp only [Inquiry.exec, hcut, decide_eq_decide.mpr hmore]
  rfl

/-- A caller's query by name is the query with the arguments that were given. -/
theorem inquiry_executeQuery {args given : Arguments} {sql : String}
    (hgiven : Method.executeQuery.signature.bind args = .ok given)
    (hsql : Method.queryText (given.valueOr "sql" .null) = .ok sql) (f : Frame) :
    Method.executeQuery.inquiry f args =
      (executeQuery f sql (given.valueOr "max_rows" (.int ResultSet.defaultRows))).bind
        fun a => .done (.ok a.record.value) := by
  unfold Method.inquiry
  rw [hgiven]
  change Inquiry.bind (.done (Method.queryText (given.valueOr "sql" .null))) _ = _
  rw [hsql]
  rfl

end Reader

/-- A query of a caller is refused before anything is asked, or its answer is cut where it should
    be and says so. What the gate refuses leaves the session as it is but for the log, and all
    that the caller is told is that the query is not allowed. What passes is executed once, as the
    caller wrote it and without arguments, and one row more is fetched than is given. When the
    reply has columns, the answer holds the first rows of it in order, as many as there are and
    the caller may have, and it is cut off if and only if there are more. -/
theorem free_query_gated_and_cut {σ : Type} [Server σ] (s : Session σ) {args given : Arguments}
    {sql : String} (hgiven : Reader.Method.executeQuery.signature.bind args = .ok given)
    (hsql : Reader.Method.queryText (given.valueOr "sql" .null) = .ok sql) :
    (∀ r, Gate.verdict sql.toList = some r →
      s.call .executeQuery args = (.error (.error (.rejected r.rule r.reason)),
        { s with logs := s.logs ++ Gate.verdictLog (some r) }) ∧
      (Error.rejected r.rule r.reason).message = "query not allowed") ∧
    ∀ maxRows, given.valueOr "max_rows" (.int ResultSet.defaultRows) = maxRows →
      (maxRows = .null ∨ maxRows.whole?.isSome) → 1 ≤ s.limits.queryRows →
      Gate.verdict sql.toList = none →
      ∀ c reply next, s.Answered sql [] c reply next → reply.result.columns ≠ [] →
      ∀ cap n : Int, cap = s.limits.rowsFor maxRows.whole? → n = reply.result.rows.length →
        s.call .executeQuery args =
          (.ok (Record.value [
              ("columns", .list (reply.result.columns.map .text)),
              ("rows", .list ((reply.result.rows.take (min n cap).toNat).map fun row =>
                Record.value (Catalog.displayRow reply.result.columns row))),
              ("row_count", .int (min n cap)),
              ("truncated", .bool (decide (cap < n)))]),
            { s with server := next }.record c
              [.cursor, .execute sql [], .fetchMany (cap + 1), .closeCursor]) := by
  have hinquiry := Reader.inquiry_executeQuery hgiven hsql s.frame
  constructor
  · intro r hverdict
    refine ⟨?_, rfl⟩
    unfold Session.call
    rw [hinquiry, Reader.executeQuery_of_verdict hverdict]
    rfl
  · rintro maxRows hmaxRows hnumber hceiling hpass c reply next hanswered hcolumns cap n rfl rfl
    have hcap := Limits.one_le_rowsFor hceiling maxRows.whole?
    generalize hrows : s.limits.rowsFor maxRows.whole? = cap at hcap
    have hexec := Reader.exec_executeQuery (f := s.frame) hpass
      ((Reader.rowCap_eq hnumber s.limits).trans (congrArg _ hrows)) (by omega) hanswered hcolumns
    -- As many rows are given as there are, but not more than the caller may have.
    have hgivenRows : reply.result.rows.take (min (reply.result.rows.length : Int) cap).toNat =
        reply.result.rows.take cap.toNat := by
      rw [List.take_eq_take_iff]
      omega
    have hcount : ((reply.result.rows.take cap.toNat).length : Int) =
        min (reply.result.rows.length : Int) cap := by
      rw [List.length_take]
      omega
    unfold Session.call
    rw [hinquiry, Inquiry.exec_bind, hmaxRows, hexec, hgivenRows, ← hcount]
    simp only [Inquiry.exec, QueryAnswer.record, ResultSet.records, List.map_map]
    rfl

/-- A session with a low ceiling, whose server has one row more than that. Of the bytes in its
    rows the first are a text and the others are none. -/
def lowCeiling : Session Script where
  context := { engine := some .sqlite, connection := some "main" }
  limits := { queryRows := 2 }
  server := { queues := [("main", [.reply { result := {
    columns := ["id", "seal"]
    rows := [[.int 7, .bytes .fixed [79, 75]], [.int 8, .bytes .fixed [255, 0, 1]],
      [.int 9, .null]] } }])] }

/-- A query whose caller asks for no rows at all is cut at the ceiling, and one that does not read
    is refused without a connection. -/
theorem free_query_gated_and_cut_low_ceiling :
    (lowCeiling.call .executeQuery [("sql", .text "SELECT * FROM t"), ("max_rows", .int 0)]).1 =
      .ok (.map [(.text "columns", .list [.text "id", .text "seal"]),
        (.text "rows", .list [
          .map [(.text "id", .int 7), (.text "seal", .text "OK")],
          .map [(.text "id", .int 8), (.text "seal", .text "<binary data: 3 bytes>")]]),
        (.text "row_count", .int 2), (.text "truncated", .bool true)]) ∧
    (lowCeiling.call .executeQuery
        [("sql", .text "SELECT * FROM t"), ("max_rows", .int 0)]).2.events =
      [.cursor, .execute "SELECT * FROM t" [], .fetchMany 3, .closeCursor].map (⟨"main", ·⟩) ∧
    ∃ rule reason, (({ server := {} } : Session Script).call .executeQuery
        [("sql", .text "DROP TABLE t")]).1 = .error (.error (.rejected rule reason)) := by
  have hpasses : Gate.verdict "SELECT * FROM t".toList = none := by decide +kernel
  obtain ⟨r, hrefused⟩ : ∃ r, Gate.verdict "DROP TABLE t".toList = some r :=
    Option.isSome_iff_exists.mp (by decide +kernel)
  have hgiven : Reader.Method.executeQuery.signature.bind
      [("sql", .text "SELECT * FROM t"), ("max_rows", .int 0)] = .ok _ := rfl
  obtain ⟨-, hanswer⟩ := free_query_gated_and_cut lowCeiling hgiven rfl
  have hcall := hanswer (.int 0) rfl (.inr rfl) (by decide) hpasses "main" _ _
    ⟨⟨_, rfl⟩, ⟨_, rfl, rfl⟩, rfl, rfl⟩ (by simp) 2 3 rfl rfl
  have hdropping : Reader.Method.executeQuery.signature.bind
      [("sql", .text "DROP TABLE t")] = .ok _ := rfl
  obtain ⟨hrefusal, -⟩ := free_query_gated_and_cut ({ server := {} } : Session Script)
    hdropping rfl
  refine ⟨?_, ?_, r.rule, r.reason, ?_⟩
  · rw [hcall]
    rfl
  · rw [hcall]
    rfl
  · rw [(hrefusal r hrefused).1]

end SqlCatalog
