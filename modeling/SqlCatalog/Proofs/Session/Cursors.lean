import SqlCatalog.Proofs.Session.History

/-!
# The Use of Cursors

How the reader treats the cursors that it opens. Each query takes a cursor of its own: the
cursor is opened, the query is executed on it, its rows are fetched unless there are none to
be had, and the cursor is closed, be it that something failed before or not. Where the cursor
cannot be opened, nothing else is tried. A call of the reader is a row of such uses, all on
the connection that was active when the call began, since answering questions changes what a
session knows and not what it is connected to. A use in which the server raised something is
the last one.

The events alone do not tell a cursor that was opened from one that could not be. What is
looked at is attempts, which are the events together with what the server raised at each of
them. That a trace of attempts treats its cursors as it should is what `Attempt.next?` checks
one attempt at a time: it remembers the connection whose cursor is open, and gets stuck where
a second one is opened, where something is done on a cursor that is not open, and where a
connection is closed below its cursor.

## Main definitions

* `Attempt`: An action on a connection with what the server raised at it.
* `CursorUse`: What is done with a cursor from its opening to its closing.
* `Run.use?`, `Session.cursorUses`: The use that a query makes of a cursor, and those of a
  call.
* `Attempt.next?`: The open cursor after one more attempt.
* `Session.trace`: The attempts of a history.

## Theorems

* `Run.cursorUse_of_use?`: A query uses one cursor of the active connection.
* `CursorUse.settled`: A use leaves no cursor open.
* `cursors_settled`: The calls of a history are rows of uses, and no cursor stays open.
-/

namespace SqlCatalog

/-- An action on a connection, with what the server raised at it. -/
structure Attempt extends Event where
  raised : Option String

/-- What is done with a cursor of a connection. It cannot be opened, or a query is executed on
    it, rows are fetched at most once and only when the query went well, and it is closed. -/
inductive CursorUse (c : ConnectionName) : List Attempt → Prop
  | refused (message : String) : CursorUse c [⟨⟨c, .cursor⟩, some message⟩]
  | unfetched (sql : String) (args : List Value) (executed closed : Option String) :
      CursorUse c [⟨⟨c, .cursor⟩, none⟩, ⟨⟨c, .execute sql args⟩, executed⟩,
        ⟨⟨c, .closeCursor⟩, closed⟩]
  | fetchedAll (sql : String) (args : List Value) (fetched closed : Option String) :
      CursorUse c [⟨⟨c, .cursor⟩, none⟩, ⟨⟨c, .execute sql args⟩, none⟩,
        ⟨⟨c, .fetchAll⟩, fetched⟩, ⟨⟨c, .closeCursor⟩, closed⟩]
  | fetchedMany (sql : String) (args : List Value) (count : Int)
      (fetched closed : Option String) :
      CursorUse c [⟨⟨c, .cursor⟩, none⟩, ⟨⟨c, .execute sql args⟩, none⟩,
        ⟨⟨c, .fetchMany count⟩, fetched⟩, ⟨⟨c, .closeCursor⟩, closed⟩]

/-! ### One query -/

/-- What the server raises at a stage of a query, given the reply to it. -/
def Reply.failedAt (r : Reply) (stage : Stage) : Option String :=
  r.failure.bind fun f => if f.1 = stage then some f.2 else none

/-- What the server raises at an action, given the reply to the query. -/
def Reply.raisedAt (r : Reply) : Action → Option String
  | .execute _ _ => r.failedAt .execute
  | .fetchAll | .fetchMany _ => r.failedAt .fetch
  | .closeCursor => r.closing
  | .cursor | .close => none

namespace Run

variable {σ : Type} [Server σ]

/-- The use that a query makes of a cursor, none without a connection to run it on. -/
def use? (r : Run σ) : Option (List Attempt) :=
  match r.session.requireConnection with
  | .error _ => none
  | .ok (c, _) =>
    match Server.openCursor c r.session.server with
    | (some message, _) => some [⟨⟨c, .cursor⟩, some message⟩]
    | (none, server) =>
      let reply := (Server.execute c r.request.sql r.request.args server).1
      some (⟨⟨c, .cursor⟩, none⟩ ::
        (r.request.actions reply).map fun a => ⟨⟨c, a⟩, reply.raisedAt a⟩)

/-- The events of a query are those of its use of a cursor. -/
theorem events_eq (r : Run σ) : r.events = (r.use?.getD []).map Attempt.toEvent := by
  unfold events use?
  rcases r.session.requireConnection with f | ⟨c, e⟩
  · rfl
  · dsimp only
    rcases Server.openCursor c r.session.server with ⟨_ | message, server⟩
    · simp only [Option.getD_some, List.map_cons, List.map_map]
      rfl
    · rfl

end Run

/-- With the cursor open a query is executed, its rows are fetched or not, and the cursor is
    closed. -/
theorem cursorUse_of_reply (q : Request) (r : Reply) (c : ConnectionName) :
    CursorUse c (⟨⟨c, .cursor⟩, none⟩ ::
      (q.actions r).map fun a => ⟨⟨c, a⟩, r.raisedAt a⟩) := by
  unfold Request.actions
  dsimp only
  split
  · -- Rows are fetched, so executing the query did not fail.
    rename_i hfetched
    rw [Bool.and_eq_true] at hfetched
    have hexecuted : r.raisedAt (.execute q.sql q.args) = none := by
      rw [Reply.raisedAt, Reply.failedAt]
      rcases hfailure : r.failure with _ | ⟨stage, message⟩
      · rfl
      · have hstage : stage ≠ .execute := by
          simpa [hfailure] using hfetched.1
        exact if_neg hstage
    simp only [List.map_cons, List.map_append, List.map_nil, hexecuted]
    -- How many rows are fetched is up to the request.
    cases q.maxRows with
    | none => exact .fetchedAll _ _ _ _
    | some count => exact .fetchedMany _ _ count _ _
  · exact .unfetched _ _ _ _

/-- A query uses one cursor, of the connection that is active. -/
theorem Run.cursorUse_of_use? {σ : Type} [Server σ] {r : Run σ} {use : List Attempt}
    (h : r.use? = some use) :
    ∃ c e, r.session.context.active? = some (c, e) ∧ CursorUse c use := by
  unfold use? Session.requireConnection at h
  rcases hactive : r.session.context.active? with _ | ⟨c, e⟩
  · simp [hactive, refuse] at h
  · simp only [hactive] at h
    refine ⟨c, e, rfl, ?_⟩
    rcases hopen : Server.openCursor c r.session.server with ⟨_ | message, server⟩
    · simp only [hopen, Option.some.injEq] at h
      exact h ▸ cursorUse_of_reply _ _ c
    · simp only [hopen, Option.some.injEq] at h
      exact h ▸ .refused message

/-- A reply without a failure raises nothing at what is done with the cursor. -/
theorem Reply.raisedAt_eq_none {q : Request} {r : Reply} (h : r.failures = []) {a : Action}
    (ha : a ∈ q.actions r) : r.raisedAt a = none := by
  rw [failures, List.append_eq_nil_iff, Option.toList_eq_nil_iff, Option.toList_eq_nil_iff,
    Option.map_eq_none_iff, caught?] at h
  obtain ⟨hcaught, hclosing⟩ := h
  rcases hfailure : r.failure with _ | ⟨_ | _, message⟩
  · cases a <;> simp [raisedAt, failedAt, hfailure, hclosing]
  · simp [hfailure] at hcaught
  · -- The failure is one to fetch, and without columns there is nothing to fetch.
    have hcolumns : r.result.columns.isEmpty = true := by simpa [hfailure] using hcaught
    have hmem : a = .execute q.sql q.args ∨ a = .closeCursor := by
      simpa [Request.actions, hcolumns] using ha
    rcases hmem with rfl | rfl
    · simp [raisedAt, failedAt, hfailure]
    · exact hclosing

/-- A query that does not break down has nothing raised at it. -/
theorem Run.raised_eq_none {σ : Type} [Server σ] {r : Run σ} {use : List Attempt}
    (hwhole : r.breakdown? = none) (huse : r.use? = some use) :
    ∀ a ∈ use, a.raised = none := by
  rw [breakdown?, List.getLast?_eq_none_iff, failures] at hwhole
  unfold use? at huse
  intro a ha
  rcases hactive : r.session.requireConnection with f | ⟨c, e⟩
  · simp [hactive] at huse
  · simp only [hactive] at hwhole huse
    rcases hopen : Server.openCursor c r.session.server with ⟨_ | message, server⟩
    · -- The cursor was opened, and what came of the query is in the reply.
      simp only [hopen, Option.some.injEq] at hwhole huse
      rw [← huse, List.mem_cons, List.mem_map] at ha
      rcases ha with rfl | ⟨action, haction, rfl⟩
      · rfl
      · exact Reply.raisedAt_eq_none hwhole haction
    · -- A cursor that cannot be opened breaks the query down.
      simp [hopen] at hwhole

/-! ### The queries of a call -/

/-- What a session learns does not change what it is connected to. -/
theorem Context.Learns.active?_eq {c d : Context} (h : c.Learns d) : d.active? = c.active? := by
  rw [active?, active?, h.connection, h.builder]

section

variable {σ α : Type} [Server σ] {s : Session σ} {runs : List (Run σ)}
  {answer : Outcome α × Session σ}

/-- A question runs its query on the session as it is. -/
theorem Asked.session_eq (h : Asked s runs answer) : ∀ r ∈ runs, r.session = s := by
  cases h with
  | known outcome h => exact fun r hr => absurd hr List.not_mem_nil
  | failed hrun | answered hrun =>
      intro r hr
      rw [List.mem_singleton.mp hr]

/-- The sessions on which an inquiry runs its queries have learnt something at most. -/
theorem Course.learns_of_mem (h : Course s runs answer) :
    ∀ r ∈ runs, s.context.Learns r.session.context := by
  induction h with
  | done outcome s => exact fun r hr => absurd hr List.not_mem_nil
  | failed h => exact fun r hr => h.session_eq r hr ▸ .refl _
  | next h rest ih =>
      intro r hr
      rcases List.mem_append.mp hr with hfirst | hmore
      · exact h.session_eq r hfirst ▸ .refl _
      · exact h.learns.trans (ih r hmore)

end

namespace Session

variable {σ : Type} [Server σ]

/-- The uses that a call makes of cursors, one after the other. -/
def cursorUses (s : Session σ) (m : Reader.Method) (args : Arguments) : List (List Attempt) :=
  (s.callRuns m args).filterMap Run.use?

/-- The events of a call are those of its uses of cursors. -/
theorem events_call (s : Session σ) (m : Reader.Method) (args : Arguments) :
    (s.call m args).2.events =
      s.events ++ (s.cursorUses m args).flatten.map Attempt.toEvent := by
  have hcourse := (m.inquiry s.frame args).course_exec s
  obtain ⟨-, hevents, -⟩ := s.call_eq_exec m args
  -- A query without a connection has neither events nor a use of a cursor.
  have huses (runs : List (Run σ)) : runs.flatMap Run.events =
      (runs.filterMap Run.use?).flatten.map Attempt.toEvent := by
    induction runs with
    | nil => rfl
    | cons r rest ih =>
        rw [List.flatMap_cons, ih, r.events_eq]
        rcases huse : r.use? with _ | use
        · rw [List.filterMap_cons_none huse]
          rfl
        · rw [List.filterMap_cons_some huse, List.flatten_cons, List.map_append,
            Option.getD_some]
  rw [hevents, hcourse.events, huses]
  rfl

/-- All cursors of a call are used as they should be, and are cursors of the connection that
    was active when it began. -/
theorem cursorUse_of_call (s : Session σ) (m : Reader.Method) (args : Arguments) :
    ∀ use ∈ s.cursorUses m args, ∃ c e, s.context.active? = some (c, e) ∧ CursorUse c use := by
  intro use huse
  obtain ⟨r, hr, hruse⟩ := List.mem_filterMap.mp huse
  obtain ⟨c, e, hactive, hshape⟩ := Run.cursorUse_of_use? hruse
  have hlearns := ((m.inquiry s.frame args).course_exec s).learns_of_mem r hr
  exact ⟨c, e, hlearns.active?_eq ▸ hactive, hshape⟩

/-- Nothing was raised in a use that is followed by another one. -/
theorem pairwise_cursorUses (s : Session σ) (m : Reader.Method) (args : Arguments) :
    (s.cursorUses m args).Pairwise fun use _ => ∀ a ∈ use, a.raised = none :=
  ((m.inquiry s.frame args).course_exec s).pairwise.filterMap Run.use?
    fun _ _ hwhole _ huse _ _ => Run.raised_eq_none hwhole huse

end Session

/-! ### Open cursors -/

/-- The connection whose cursor is open after one more attempt. There is none where the attempt
    is out of place. -/
def Attempt.next? (opened : Option ConnectionName) (a : Attempt) :
    Option (Option ConnectionName) :=
  match a.action, opened with
  | .cursor, none => some (if a.raised.isNone then some a.connection else none)
  | .close, none => some none
  | .closeCursor, some c => if a.connection = c then some none else none
  | .execute _ _, some c | .fetchAll, some c | .fetchMany _, some c =>
    if a.connection = c then some (some c) else none
  | _, _ => none

/-- A use begins and ends with no cursor open. -/
theorem CursorUse.settled {c : ConnectionName} {use : List Attempt} (h : CursorUse c use) :
    use.foldlM Attempt.next? none = some none := by
  cases h <;> simp [List.foldlM, Attempt.next?]

/-- So does a row of uses. -/
theorem settled_flatten {uses : List (List Attempt)}
    (h : ∀ use ∈ uses, ∃ c, CursorUse c use) :
    uses.flatten.foldlM Attempt.next? none = some none := by
  induction uses with
  | nil => rfl
  | cons use rest ih =>
      obtain ⟨c, huse⟩ := h use List.mem_cons_self
      rw [List.flatten_cons, List.foldlM_append, huse.settled]
      exact ih fun other hother => h other (List.mem_cons_of_mem _ hother)

/-! ### Histories -/

namespace Session

/-- The attempt to close a connection. -/
def closing (s : Session Script) (c : ConnectionName) : Attempt :=
  ⟨⟨c, .close⟩, (Server.close c s.server).1⟩

/-- The attempts of a step: the uses of cursors of a call, and the closing of the connection
    that is given up. -/
def attempts (s : Session Script) : Step → List Attempt
  | .call m args => (s.cursorUses m args).flatten
  | .configure driver connection _ =>
    match Engine.parse driver, s.context.connection with
    | .ok _, some c => if connection = some c then [] else [s.closing c]
    | _, _ => []
  | .disconnect => (s.context.connection.map s.closing).toList
  | _ => []

/-- The attempts of a history. -/
def trace (s : Session Script) : List Step → List Attempt
  | [] => []
  | step :: rest => s.attempts step ++ (s.take step).2.trace rest

theorem events_close (s : Session Script) (c : ConnectionName) :
    (s.close c).events = s.events ++ [⟨c, .close⟩] := by
  unfold close
  dsimp only
  split <;> rfl

/-- The events of a step are those of its attempts. -/
theorem events_take (s : Session Script) (step : Step) :
    (s.take step).2.events = s.events ++ (s.attempts step).map Attempt.toEvent := by
  cases step with
  | configure driver connection schema =>
      dsimp only [take, attempts]
      unfold configure
      rcases Engine.parse driver with f | e
      · simp
      · rcases s.context.connection with _ | c
        · simp [log]
        · by_cases hkept : connection = some c
          · simp [log, hkept]
          · simp only [log, if_neg hkept]
            exact events_close _ c
  | disconnect =>
      dsimp only [take, attempts]
      unfold disconnect
      rcases s.context.connection with _ | c
      · simp
      · exact events_close _ c
  | call m args => exact s.events_call m args
  | rememberSchema | limit | requireConnection | prepare | failClosing =>
      exact (List.append_nil _).symm

/-- The events of a history are those of its attempts. -/
theorem events_after (s : Session Script) (history : List Step) :
    (s.after history).events = s.events ++ (s.trace history).map Attempt.toEvent := by
  induction history generalizing s with
  | nil => exact (List.append_nil _).symm
  | cons step rest ih =>
      rw [trace, List.map_append, ← List.append_assoc, ← s.events_take step]
      exact ih (s.take step).2

/-- A step begins and ends with no cursor open. -/
theorem settled_attempts (s : Session Script) (step : Step) :
    (s.attempts step).foldlM Attempt.next? none = some none := by
  cases step with
  | call m args =>
      refine settled_flatten fun use huse => ?_
      obtain ⟨c, -, -, hshape⟩ := s.cursorUse_of_call m args use huse
      exact ⟨c, hshape⟩
  | configure driver connection schema =>
      dsimp only [attempts]
      split
      · split <;> rfl
      · rfl
  | disconnect =>
      dsimp only [attempts]
      rcases s.context.connection with _ | c <;> rfl
  | rememberSchema | limit | requireConnection | prepare | failClosing => rfl

/-- So does a history, by induction on its steps. -/
theorem settled_trace (s : Session Script) (history : List Step) :
    (s.trace history).foldlM Attempt.next? none = some none := by
  induction history generalizing s with
  | nil => rfl
  | cons step rest ih =>
      rw [trace, List.foldlM_append, settled_attempts]
      exact ih (s.take step).2

end Session

/-- The calls of a reader use their cursors as they should, whatever was done with the session
    before. The events of a call are a row of uses, each of one cursor of the connection that
    was active when the call began, and only in the last use something may have been raised.
    No cursor is left open by a call or by the history before it, none is closed that is not
    open, and none is opened while another one is. -/
theorem cursors_settled (override : String) (limits : Limits) (server : Script)
    (history : List Step) (m : Reader.Method) (args : Arguments) :
    let start := Session.fresh override limits server
    let s := start.after history
    let uses := s.cursorUses m args
    (s.call m args).2.events = s.events ++ uses.flatten.map Attempt.toEvent ∧
      (∀ use ∈ uses, ∃ c e, s.context.active? = some (c, e) ∧ CursorUse c use) ∧
      uses.Pairwise (fun use _ => ∀ a ∈ use, a.raised = none) ∧
      uses.flatten.foldlM Attempt.next? none = some none ∧
      s.events = (start.trace history).map Attempt.toEvent ∧
      (start.trace history).foldlM Attempt.next? none = some none := by
  intro start s uses
  have hshapes : ∀ use ∈ uses, ∃ c, CursorUse c use := by
    intro use huse
    obtain ⟨c, -, -, hshape⟩ := s.cursorUse_of_call m args use huse
    exact ⟨c, hshape⟩
  exact ⟨s.events_call m args, s.cursorUse_of_call m args, s.pairwise_cursorUses m args,
    settled_flatten hshapes, start.events_after history, start.settled_trace history⟩

/-- A server that tells the current schema, and fails when the rows of the next query are
    fetched. -/
def brokenFetch : Script where
  queues := [("main", [.reply { result := { columns := ["schema"], rows := [[.text "shop"]] } },
    .reply { result := { columns := ["found"] }, failure := some (.fetch, "lost") }])]

/-- A call that uses two cursors, the second of which breaks down. -/
theorem cursors_settled_broken :
    let s := (Session.fresh "" {} brokenFetch).after
      [.configure (.text "mysql") (some "main") none]
    let uses := s.cursorUses .tableExists [("table", .text "orders")]
    uses.map (·.map Attempt.raised) = [[none, none, none, none], [none, none, some "lost", none]] ∧
      uses.flatten.foldlM Attempt.next? none = some none := by
  have h := cursors_settled "" {} brokenFetch [.configure (.text "mysql") (some "main") none]
    .tableExists [("table", .text "orders")]
  exact ⟨rfl, h.2.2.2.1⟩

end SqlCatalog
