import SqlCatalog.Proofs.Session.Runs

/-!
# Histories of a Session

A session in use, one step after the other. A step is what a caller does with the session
or with its reader, or what is prepared at the other end of the connections meanwhile. Some
steps fail; a history goes on after them.

What can be told about a session is told after each step: the answer, what the connections
were asked for, what was logged, and the state that the session reports of itself. Two
sessions with the same reports cannot be told apart by using them.

## Main definitions

* `Step`, `Session.take`: A step, and what it does to a session.
* `Session.after`: A session after a history.
* `Report`, `Session.reports`: What can be told while a session is used.

## Theorems

* `Session.context_configure_of_ok`, `Session.context_disconnect`: What another datasource
  leaves of the one before.
* `Session.capacity_after`: No history changes how much the cache can hold.
-/

namespace SqlCatalog

/-- What is done with a session: another datasource or none, a schema to remember, a call
    of the reader, another reader, a look at the connection; and what is prepared for a
    connection in the meantime. -/
inductive Step where
  | configure (driver : Value) (connection : Option ConnectionName) (schema : Option String)
  | disconnect
  | rememberSchema (schema : Option String)
  | call (m : Reader.Method) (args : Arguments)
  | limit (limits : Limits)
  | requireConnection
  | prepare (c : ConnectionName) (replies : List Prepared)
  | failClosing (c : ConnectionName) (message : String)

/-- What the caller is handed after a step. -/
inductive Answer where
  | nothing
  | engine (outcome : Outcome Engine)
  | value (outcome : Outcome Value)
  | active (outcome : Outcome (ConnectionName × Engine))

/-- The state that a session reports of itself. -/
structure Status where
  isConnected : Bool
  engine : Option Engine
  defaultSchema : String
  currentSchema : Option String
  cacheSize : Nat

/-- What can be told about a step once it is done. -/
structure Report where
  answer : Answer
  events : List Event
  logs : List LogRecord
  status : Status

/-- The state of a datasource as far as it is reported. -/
def Context.status (c : Context) : Status :=
  ⟨c.isConnected, c.engine, c.defaultSchema, c.currentSchema, c.cache.size⟩

namespace Session

/-- A session at its beginning, before anything is configured. -/
def fresh (override : String) (limits : Limits) (server : Script) : Session Script :=
  { context := { override }, limits, server }

/-- The answer to a step, and the session after it. -/
def take (s : Session Script) : Step → Answer × Session Script
  | .configure driver connection schema =>
    let changed := s.configure driver connection schema
    (.engine changed.1, changed.2)
  | .disconnect => (.nothing, s.disconnect)
  | .rememberSchema schema => (.nothing, s.rememberSchema schema)
  | .call m args =>
    let called := s.call m args
    (.value called.1, called.2)
  | .limit limits => (.nothing, { s with limits })
  | .requireConnection => (.active s.requireConnection, s)
  | .prepare c replies => (.nothing, { s with server := s.server.prepare c replies })
  | .failClosing c message => (.nothing, { s with server := s.server.failClosing c message })

/-- The session after a history. -/
def after (s : Session Script) (history : List Step) : Session Script :=
  history.foldl (fun s step => (s.take step).2) s

/-- The session with nothing to be told about the past. -/
def unobserved (s : Session Script) : Session Script := { s with events := [], logs := [] }

/-- What can be told about a step, and the session after it. -/
def observe (s : Session Script) (step : Step) : Report × Session Script :=
  let (answer, next) := s.unobserved.take step
  (⟨answer, next.events, next.logs, next.context.status⟩, next)

/-- What can be told about a session while it takes one step after the other. -/
def reports (s : Session Script) : List Step → List Report
  | [] => []
  | step :: rest => (s.observe step).1 :: (s.observe step).2.reports rest

/-! ### Another datasource -/

/-- Closing a connection does not touch the datasource. -/
theorem context_close (s : Session Script) (c : ConnectionName) :
    (s.close c).context = s.context := by
  unfold close
  dsimp only
  split <;> rfl

/-- An engine that is not known changes nothing. -/
theorem configure_of_error {driver : Value} {f : Failure} (h : Engine.parse driver = .error f)
    (s : Session Script) (connection : Option ConnectionName) (schema : Option String) :
    s.configure driver connection schema = (.error f, s) := by
  unfold configure
  rw [h]

/-- The datasource that a session is configured for. Nothing of what was learnt over the
    connection before is left. -/
theorem context_configure_of_ok {driver : Value} {e : Engine} (h : Engine.parse driver = .ok e)
    (s : Session Script) (connection : Option ConnectionName) (schema : Option String) :
    (s.configure driver connection schema).2.context =
      { s.context.forget with
        engine := some e, builder := some e, connection,
        override := schema.getD s.context.override } := by
  unfold configure
  rw [h]
  dsimp only [log]
  -- A connection of before is closed unless it is the one that is given again.
  rcases s.context.connection with _ | c
  · rfl
  · by_cases hkept : connection = some c
    · simp only [if_pos hkept]
    · simp only [if_neg hkept, context_close]

/-- A session without a datasource keeps the override. -/
theorem context_disconnect (s : Session Script) :
    s.disconnect.context =
      { s.context.forget with engine := none, builder := none, connection := none } := by
  unfold disconnect
  dsimp only
  rcases s.context.connection with _ | c
  · rfl
  · simp only [log, context_close]

/-! ### The room in the cache -/

/-- Another datasource begins with an empty cache of the same room. -/
theorem capacity_configure (s : Session Script) (driver : Value)
    (connection : Option ConnectionName) (schema : Option String) :
    (s.configure driver connection schema).2.context.cache.capacity =
      s.context.cache.capacity := by
  rcases hparse : Engine.parse driver with f | e
  · rw [configure_of_error hparse]
  · rw [context_configure_of_ok hparse]
    rfl

theorem capacity_disconnect (s : Session Script) :
    s.disconnect.context.cache.capacity = s.context.cache.capacity := by
  rw [context_disconnect]
  rfl

/-- No step changes how much the cache can hold. -/
theorem capacity_take (s : Session Script) (step : Step) :
    (s.take step).2.context.cache.capacity = s.context.cache.capacity := by
  cases step with
  | configure driver connection schema =>
      dsimp only [take]
      exact s.capacity_configure driver connection schema
  | disconnect => exact s.capacity_disconnect
  | call m args =>
      -- What a call does to the datasource is learning, and that leaves the room as it is.
      exact (s.learns_call m args).capacity
  | rememberSchema | limit | requireConnection | prepare | failClosing => rfl

/-- No history does, by induction on its steps. -/
theorem capacity_after (s : Session Script) (history : List Step) :
    (s.after history).context.cache.capacity = s.context.cache.capacity := by
  induction history generalizing s with
  | nil => rfl
  | cons step rest ih => exact (ih (s.take step).2).trans (s.capacity_take step)

end Session

end SqlCatalog
