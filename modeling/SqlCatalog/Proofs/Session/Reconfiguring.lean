import SqlCatalog.Proofs.Session.History

/-!
# Reconfiguring

A session that is given another datasource forgets the one before. Whatever was done with
it until then, nothing of that can be told by using it afterwards, as long as a default
schema is given along with the datasource: the override is the one part of a datasource that
a configuration without a schema hands on.

What is compared are two sessions of different pasts. They need not be equal after the
configuration. What their connections were asked for and what they logged is behind them,
and two scripts that say the same may be written differently. So the sessions are `Alike`
once their past is no longer observed, whatever a session does keeps them alike, and alike
sessions have the same reports.

## Main definitions

* `Script.Alike`, `Session.Alike`: Servers that say the same, and sessions on them.
* `Matching`: The same answer, and sessions that are alike.
* `Past`: How a session came about.

## Theorems

* `Session.Alike.exec`: An inquiry has the same course on sessions that are alike.
* `Session.Alike.take`: So has a step.
* `Past.reports_configured`: Reconfigured sessions have the same reports.
-/

namespace SqlCatalog

/-! ### Servers -/

namespace Script

/-- Two scripts that say the same: the same is prepared for every connection, and closing
    it ends in the same way. -/
structure Alike (a b : Script) : Prop where
  queue : ∀ c, a.queue c = b.queue c
  closing : ∀ c, a.closeFailures.lookup c = b.closeFailures.lookup c

/-- What is kept under other keys is found as before. -/
theorem lookup_others {c d : ConnectionName} (hne : d ≠ c)
    (queues : List (ConnectionName × List Prepared)) :
    (queues.filter (·.1 != c)).lookup d = queues.lookup d := by
  induction queues with
  | nil => rfl
  | cons entry rest ih =>
      obtain ⟨k, q⟩ := entry
      by_cases hk : k = c
      · -- The entry is taken out, but it was not what is looked for.
        have hkey : (d == k) = false := beq_false_of_ne (hk ▸ hne)
        rw [List.filter_cons_of_neg (by simp [hk]), List.lookup_cons, hkey, ih]
      · rw [List.filter_cons_of_pos (by simp [hk]), List.lookup_cons, List.lookup_cons, ih]

/-- Setting the queue of a connection leaves the others. -/
theorem queue_setQueue (s : Script) (c d : ConnectionName) (q : List Prepared) :
    (s.setQueue c q).queue d = if d = c then q else s.queue d := by
  unfold queue setQueue
  by_cases heq : d = c
  · rw [heq, List.lookup_cons_self, if_pos rfl]
    rfl
  · rw [List.lookup_cons, beq_false_of_ne heq, if_neg heq, lookup_others heq]

namespace Alike

variable {a b : Script}

theorem setQueue (h : a.Alike b) (c : ConnectionName) (q : List Prepared) :
    (a.setQueue c q).Alike (b.setQueue c q) where
  queue d := by rw [queue_setQueue, queue_setQueue, h.queue d]
  closing := h.closing

theorem prepare (h : a.Alike b) (c : ConnectionName) (more : List Prepared) :
    (a.prepare c more).Alike (b.prepare c more) := by
  unfold Script.prepare
  rw [h.queue c]
  exact h.setQueue c _

theorem failClosing (h : a.Alike b) (c : ConnectionName) (message : String) :
    (a.failClosing c message).Alike (b.failClosing c message) where
  queue := h.queue
  closing d := by simp only [Script.failClosing, List.lookup_cons, h.closing d]

theorem openCursor (h : a.Alike b) (c : ConnectionName) :
    (Server.openCursor c a).1 = (Server.openCursor c b).1 ∧
      (Server.openCursor c a).2.Alike (Server.openCursor c b).2 := by
  change (Script.openCursor c a).1 = (Script.openCursor c b).1 ∧
    (Script.openCursor c a).2.Alike (Script.openCursor c b).2
  unfold Script.openCursor
  rw [h.queue c]
  split
  · exact ⟨rfl, h.setQueue c _⟩
  · exact ⟨rfl, h⟩

theorem execute (h : a.Alike b) (c : ConnectionName) (sql : String) (args : List Value) :
    (Server.execute c sql args a).1 = (Server.execute c sql args b).1 ∧
      (Server.execute c sql args a).2.Alike (Server.execute c sql args b).2 := by
  change (Script.execute c a).1 = (Script.execute c b).1 ∧
    (Script.execute c a).2.Alike (Script.execute c b).2
  unfold Script.execute
  rw [h.queue c]
  split
  · exact ⟨rfl, h.setQueue c _⟩
  · exact ⟨rfl, h⟩

end Alike

end Script

/-! ### Sessions -/

/-- Two sessions that nothing told about them tells apart. -/
structure Session.Alike (s t : Session Script) : Prop where
  context : s.context = t.context
  limits : s.limits = t.limits
  server : s.server.Alike t.server
  events : s.events = t.events
  logs : s.logs = t.logs

/-- The same answer, and sessions that are alike. -/
structure Matching {α : Type} (x y : α × Session Script) : Prop where
  answer : x.1 = y.1
  session : x.2.Alike y.2

/-- Matching outcomes fail or succeed together. -/
theorem Matching.cases {α : Type} {x y : Outcome α × Session Script} (h : Matching x y) :
    (∃ f s t, x = (.error f, s) ∧ y = (.error f, t) ∧ s.Alike t) ∨
      (∃ a s t, x = (.ok a, s) ∧ y = (.ok a, t) ∧ s.Alike t) := by
  obtain ⟨outcome, s⟩ := x
  obtain ⟨_, t⟩ := y
  obtain ⟨rfl, hsession⟩ := h
  cases outcome with
  | error f => exact .inl ⟨f, s, t, rfl, rfl, hsession⟩
  | ok a => exact .inr ⟨a, s, t, rfl, rfl, hsession⟩

theorem Matching.map {α β : Type} {x y : α × Session Script} (h : Matching x y) (f : α → β) :
    Matching (f x.1, x.2) (f y.1, y.2) :=
  ⟨congrArg f h.answer, h.session⟩

namespace Session.Alike

variable {α : Type} {s t : Session Script}

theorem withContext (h : s.Alike t) (context : Context) :
    Alike { s with context } { t with context } :=
  ⟨rfl, h.limits, h.server, h.events, h.logs⟩

theorem withServer (h : s.Alike t) {a b : Script} (hserver : a.Alike b) :
    Alike { s with server := a } { t with server := b } :=
  ⟨h.context, h.limits, hserver, h.events, h.logs⟩

theorem record (h : s.Alike t) (c : ConnectionName) (actions : List Action) :
    (s.record c actions).Alike (t.record c actions) :=
  ⟨h.context, h.limits, h.server, congrArg (· ++ _) h.events, h.logs⟩

theorem withLogs (h : s.Alike t) (more : List LogRecord) :
    Alike { s with logs := s.logs ++ more } { t with logs := t.logs ++ more } :=
  ⟨h.context, h.limits, h.server, h.events, congrArg (· ++ _) h.logs⟩

theorem log (h : s.Alike t) (level : LogLevel) (message : String) :
    (s.log level message).Alike (t.log level message) :=
  h.withLogs _

theorem requireConnection (h : s.Alike t) : s.requireConnection = t.requireConnection := by
  rw [Session.requireConnection, Session.requireConnection, h.context]

/-! ### What a session does -/

theorem run (h : s.Alike t) (q : Request) : Matching (s.run q) (t.run q) := by
  unfold Session.run
  rw [h.requireConnection]
  rcases t.requireConnection with f | ⟨c, e⟩
  · exact ⟨rfl, h⟩
  · obtain ⟨hopen, hopened⟩ := h.server.openCursor c
    dsimp only
    rcases hs : Server.openCursor c s.server with ⟨refusal, a⟩
    rcases ht : Server.openCursor c t.server with ⟨_, b⟩
    rw [hs, ht] at hopen hopened
    obtain rfl : refusal = _ := hopen
    cases refusal with
    | some message => exact ⟨rfl, (h.withServer hopened).record c _⟩
    | none =>
        -- The cursor is open on both sides, and both are given the same reply.
        obtain ⟨hreply, hexecuted⟩ := Script.Alike.execute hopened c q.sql q.args
        dsimp only at hreply hexecuted ⊢
        rcases ha : Server.execute c q.sql q.args a with ⟨r, a'⟩
        rcases hb : Server.execute c q.sql q.args b with ⟨_, b'⟩
        rw [ha, hb] at hreply hexecuted
        obtain rfl : r = _ := hreply
        exact ⟨rfl, ((h.withServer hexecuted).withLogs (q.notes r)).record c _⟩

theorem askCurrentSchema (h : s.Alike t) : Matching s.askCurrentSchema t.askCurrentSchema := by
  unfold Session.askCurrentSchema
  rw [h.requireConnection, h.context]
  split
  · exact ⟨rfl, h⟩
  · split
    · exact ⟨rfl, h⟩
    · split
      · exact ⟨rfl, h⟩
      · exact ⟨rfl, h⟩
      · rename_i e _ _ q _
        obtain ⟨f, s', t', hs, ht, h'⟩ | ⟨r, s', t', hs, ht, h'⟩ :=
          (h.run ⟨q.sql e, q.args, "resolving current schema", none⟩).cases
        · rw [hs, ht]
          exact ⟨rfl, h'⟩
        · rw [hs, ht]
          dsimp only
          -- The same rows name the same schema, and both sessions remember it.
          split
          · exact ⟨rfl, h'⟩
          · refine ⟨rfl, ?_⟩
            rw [rememberSchema, rememberSchema, h'.context]
            exact h'.withContext _

theorem withCache (h : s.Alike t) (cache : ColumnCache) :
    (s.withCache cache).Alike (t.withCache cache) := by
  rw [Session.withCache, Session.withCache, h.context]
  exact h.withContext _

theorem loadColumns (h : s.Alike t) (e : Engine) (schema : String) (table : Value) :
    Matching (s.loadColumns e schema table) (t.loadColumns e schema table) := by
  unfold Session.loadColumns
  split
  · exact ⟨rfl, h⟩
  · exact ⟨rfl, h⟩
  · rename_i q _
    obtain ⟨f, s', t', hs, ht, h'⟩ | ⟨r, s', t', hs, ht, h'⟩ :=
      (h.run ⟨q.sql e, q.args, "getting columns", none⟩).cases
    · rw [hs, ht]
      exact ⟨rfl, h'⟩
    · rw [hs, ht]
      exact ⟨rfl, h'⟩

theorem askColumns (h : s.Alike t) (e : Engine) (schema : String) (table : Value) :
    Matching (s.askColumns e schema table) (t.askColumns e schema table) := by
  unfold Session.askColumns
  rw [h.context]
  split
  · exact ⟨rfl, h⟩
  · split
    · exact ⟨rfl, h.withCache _⟩
    · obtain ⟨hloaded, h'⟩ := h.loadColumns e schema table
      dsimp only
      rw [hloaded, h'.context]
      exact ⟨rfl, h'.withCache _⟩

/-- An inquiry has the same course on sessions that are alike, by induction on its
    questions. -/
theorem exec (i : Inquiry α) (h : s.Alike t) : Matching (i.exec s) (i.exec t) := by
  induction i generalizing s t with
  | done outcome => exact ⟨rfl, h⟩
  | run q next ih =>
      -- The next question is the same on both sides, because it is chosen by the answer.
      rw [Inquiry.exec, Inquiry.exec]
      obtain ⟨f, s', t', hs, ht, h'⟩ | ⟨r, s', t', hs, ht, h'⟩ := (h.run q).cases
      · rw [hs, ht]
        exact ⟨rfl, h'⟩
      · rw [hs, ht]
        exact ih r h'
  | currentSchema next ih =>
      rw [Inquiry.exec, Inquiry.exec]
      obtain ⟨f, s', t', hs, ht, h'⟩ | ⟨schema, s', t', hs, ht, h'⟩ := h.askCurrentSchema.cases
      · rw [hs, ht]
        exact ⟨rfl, h'⟩
      · rw [hs, ht]
        exact ih schema h'
  | columns e schema table next ih =>
      rw [Inquiry.exec, Inquiry.exec]
      obtain ⟨f, s', t', hs, ht, h'⟩ | ⟨names, s', t', hs, ht, h'⟩ :=
        (h.askColumns e schema table).cases
      · rw [hs, ht]
        exact ⟨rfl, h'⟩
      · rw [hs, ht]
        exact ih names h'

theorem call (h : s.Alike t) (m : Reader.Method) (args : Arguments) :
    Matching (s.call m args) (t.call m args) := by
  have hframe : s.frame = t.frame := by rw [frame, frame, h.context, h.limits]
  unfold Session.call
  rw [hframe]
  obtain ⟨f, s', t', hs, ht, h'⟩ | ⟨v, s', t', hs, ht, h'⟩ :=
    (h.exec (m.inquiry t.frame args)).cases
  · rw [hs, ht]
    dsimp only
    split
    · exact ⟨rfl, h'.withLogs _⟩
    · exact ⟨rfl, h'⟩
  · rw [hs, ht]
    exact ⟨rfl, h'⟩

theorem close (h : s.Alike t) (c : ConnectionName) : (s.close c).Alike (t.close c) := by
  have hclosing : (Server.close c s.server).1 = (Server.close c t.server).1 :=
    h.server.closing c
  have hnext := h.record c [.close]
  -- A failure to close is logged and goes no further.
  unfold Session.close
  dsimp only
  rw [hclosing]
  split
  · exact hnext
  · exact hnext.log _ _

theorem configure (h : s.Alike t) (driver : Value) (connection : Option ConnectionName)
    (schema : Option String) :
    Matching (s.configure driver connection schema) (t.configure driver connection schema) := by
  unfold Session.configure
  rw [h.context]
  split
  · exact ⟨rfl, h⟩
  · have hnext := h.withContext
      { t.context.forget with
        engine := some ‹Engine›, builder := some ‹Engine›, connection,
        override := schema.getD t.context.override }
    dsimp only
    refine ⟨rfl, Alike.log ?_ _ _⟩
    split
    · exact hnext
    · split
      · exact hnext
      · exact hnext.close _

theorem disconnect (h : s.Alike t) : s.disconnect.Alike t.disconnect := by
  have hnext := h.withContext
    { t.context.forget with engine := none, builder := none, connection := none }
  unfold Session.disconnect
  rw [h.context]
  dsimp only
  split
  · exact hnext
  · exact (hnext.close _).log _ _

/-- A step is answered alike on sessions that are alike. -/
theorem take (h : s.Alike t) (step : Step) : Matching (s.take step) (t.take step) := by
  cases step with
  | configure driver connection schema =>
      exact (h.configure driver connection schema).map Answer.engine
  | disconnect => exact ⟨rfl, h.disconnect⟩
  | rememberSchema schema =>
      refine ⟨rfl, ?_⟩
      simp only [Session.take, rememberSchema]
      rw [h.context]
      exact h.withContext _
  | call m args => exact (h.call m args).map Answer.value
  | limit limits => exact ⟨rfl, ⟨h.context, rfl, h.server, h.events, h.logs⟩⟩
  | requireConnection => exact ⟨congrArg Answer.active h.requireConnection, h⟩
  | prepare c replies => exact ⟨rfl, h.withServer (h.server.prepare c replies)⟩
  | failClosing c message => exact ⟨rfl, h.withServer (h.server.failClosing c message)⟩

theorem unobserved (h : s.Alike t) : s.unobserved.Alike t.unobserved :=
  ⟨h.context, h.limits, h.server, rfl, rfl⟩

/-- The same can be told about a step. -/
theorem observe (h : s.unobserved.Alike t.unobserved) (step : Step) :
    Matching (s.observe step) (t.observe step) := by
  obtain ⟨hanswer, h'⟩ := h.take step
  unfold Session.observe
  rcases hs : s.unobserved.take step with ⟨answer, s'⟩
  rcases ht : t.unobserved.take step with ⟨_, t'⟩
  rw [hs, ht] at hanswer h'
  obtain rfl : answer = _ := hanswer
  refine ⟨?_, h'⟩
  dsimp only at h' ⊢
  rw [h'.events, h'.logs, h'.context]

/-- Whoever cannot observe the past of two sessions is told the same about both, by
    induction on the steps to come. -/
theorem reports (h : s.unobserved.Alike t.unobserved) (rest : List Step) :
    s.reports rest = t.reports rest := by
  induction rest generalizing s t with
  | nil => rfl
  | cons step rest ih =>
      obtain ⟨hreport, hnext⟩ := h.observe step
      rw [Session.reports, Session.reports, hreport, ih hnext.unobserved]

end Session.Alike

/-- What will be told about a session depends on its datasource, its reader and its server. -/
theorem Session.reports_eq {s t : Session Script} (hcontext : s.context = t.context)
    (hlimits : s.limits = t.limits) (hserver : s.server.Alike t.server) (rest : List Step) :
    s.reports rest = t.reports rest :=
  Alike.reports ⟨hcontext, hlimits, hserver, rfl, rfl⟩ rest

/-! ### Another datasource -/

/-- How a session came about: how it began, and its history since. -/
structure Past where
  override : String
  limits : Limits
  server : Script
  history : List Step

namespace Past

/-- The session that came about. -/
def session (p : Past) : Session Script :=
  (Session.fresh p.override p.limits p.server).after p.history

/-- The session with another datasource, to which belongs a default schema. -/
def configured (p : Past) (driver : Value) (connection : Option ConnectionName)
    (schema : String) : Session Script :=
  (p.session.configure driver connection (some schema)).2

end Past

namespace Session

/-- What a datasource is right after it was configured with a default schema depends on the
    room in the cache, and on nothing else that was there before. -/
theorem context_configure {driver : Value} {e : Engine} (hdriver : Engine.parse driver = .ok e)
    (s : Session Script) (connection : Option ConnectionName) (schema : String) :
    (s.configure driver connection (some schema)).2.context =
      { engine := some e, connection, override := schema,
        cache := { capacity := s.context.cache.capacity } } := by
  rw [context_configure_of_ok hdriver]
  rfl

/-- The reader stays when the datasource is replaced. -/
theorem limits_configure (s : Session Script) (driver : Value)
    (connection : Option ConnectionName) (schema : Option String) :
    (s.configure driver connection schema).2.limits = s.limits := by
  have hclose : ∀ (t : Session Script) c, (t.close c).limits = t.limits := by
    intro t c
    unfold close
    dsimp only
    split <;> rfl
  unfold configure
  split
  · rfl
  · dsimp only [log]
    split
    · rfl
    · split
      · rfl
      · rw [hclose]

end Session

namespace Past

/-- The room in the cache is what it was at the beginning. -/
theorem capacity_session (p : Past) : p.session.context.cache.capacity = 256 :=
  (Session.fresh p.override p.limits p.server).capacity_after p.history

/-- Two sessions of any pasts have the same reports from the moment on that both are given
    the same datasource and default schema, whatever is done with them then, as long as
    their readers have the same ceilings and their connections the same to say. No list of
    columns, no schema that was remembered, and no engine of the past comes to light. -/
theorem reports_configured (p q : Past) {driver : Value} {e : Engine}
    (hdriver : Engine.parse driver = .ok e) {connection : Option ConnectionName}
    {schema : String} (hlimits : p.session.limits = q.session.limits)
    (hserver : (p.configured driver connection schema).server.Alike
      (q.configured driver connection schema).server) (rest : List Step) :
    (p.configured driver connection schema).reports rest =
      (q.configured driver connection schema).reports rest := by
  refine Session.reports_eq ?_ ?_ hserver rest
  -- The room in the cache is the one part of a datasource that outlives the configuration,
  -- and it is the same in all histories.
  · rw [configured, configured, Session.context_configure hdriver,
      Session.context_configure hdriver, capacity_session, capacity_session]
  · rw [configured, configured, Session.limits_configure, Session.limits_configure, hlimits]

/-- A session that browsed the tables of another datasource, over the connection that is
    used again later, and remembers its current schema and the columns of a table. -/
def browsing : Past where
  override := "warehouse"
  limits := {}
  server := {}
  history := [
    .configure (.text "mysql") (some "main") none,
    .prepare "main" [.reply { result := {
      columns := ["column_name"]
      rows := [[.text "id", .null, .null, .null, .null, .null, .null, .null]] } }],
    .call .tableColumns [("table", .text "orders")],
    .rememberSchema (some "legacy")]

/-- A session on which nothing was done. -/
def idle : Past where
  override := ""
  limits := {}
  server := {}
  history := []

/-- The two sessions can be told apart until they are given a datasource. After that the
    columns of the table are asked for again, in the schema that the server tells and not in
    the one that was remembered. -/
theorem browsing_is_forgotten :
    browsing.session.context.status ≠ idle.session.context.status ∧
      (browsing.configured (.text "mariadb") (some "main") "").reports
          [.call .tableColumns [("table", .text "orders")], .requireConnection, .disconnect] =
        (idle.configured (.text "mariadb") (some "main") "").reports
          [.call .tableColumns [("table", .text "orders")], .requireConnection, .disconnect] := by
  have hdriver : Engine.parse (.text "mariadb") = .ok .mysql := rfl
  have hcached : browsing.session.context.status.cacheSize = 1 := rfl
  have hserver : (browsing.configured (.text "mariadb") (some "main") "").server =
      { queues := [("main", [])] } := rfl
  refine ⟨fun h => ?_, reports_configured browsing idle hdriver rfl ⟨fun c => ?_, fun c => ?_⟩ _⟩
  · rw [h] at hcached
    exact absurd hcached (by decide)
  · -- What was prepared for the past is used up, so nothing is prepared for any connection.
    rw [hserver]
    by_cases hc : c = "main"
    · rw [hc]
      rfl
    · simp only [Script.queue, List.lookup_cons, beq_false_of_ne hc]
      rfl
  · rw [hserver]
    rfl

end Past

end SqlCatalog
