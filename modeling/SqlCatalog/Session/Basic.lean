import SqlCatalog.ColumnCache
import SqlCatalog.Engine.Writing
import SqlCatalog.Log
import SqlCatalog.Pagination
import SqlCatalog.Session.Server

/-!
# Sessions

A session holds the active datasource: an engine, a connection, and what was
learnt over that connection. Configuring another datasource forgets everything
that was learnt and closes the connection that it replaces; the engine is looked
up first, so that an unknown one changes nothing.

Running a query opens a cursor, executes, fetches and closes the cursor, in this
order and whatever happens. A failure while the cursor is open becomes an error
of the library that names what the query was run for, unless closing the cursor
fails as well.

## Main definitions

* `Context`: The active datasource.
* `Session`: The datasource with the server, the ceilings of a reader, and what
  happened so far.
* `Session.configure`, `Session.disconnect`: Changing the datasource.
* `Session.run`: Running a query.
-/

namespace SqlCatalog

/-- The active datasource. The engine is what the datasource is said to be, and the builder
    is the engine that queries are built for. The override replaces the builder's default
    schema unless it is empty; the current schema and the cache are what was learnt. -/
structure Context where
  engine : Option Engine := none
  builder : Option Engine := engine
  connection : Option ConnectionName := none
  override : String := ""
  currentSchema : Option String := none
  cache : ColumnCache := {}

namespace Context

/-- The connection and the builder, when there are both. -/
def active? (c : Context) : Option (ConnectionName × Engine) :=
  match c.connection, c.builder with
  | some name, some e => some (name, e)
  | _, _ => none

/-- Whether there is a connection to run queries on. -/
def isConnected (c : Context) : Bool := c.active?.isSome

/-- The override, else the default schema of the builder. -/
def defaultSchema (c : Context) : String :=
  if c.override = "" then (c.builder.map (·.rules.defaultSchema)).getD "" else c.override

/-- The context without what was learnt over its connection. -/
def forget (c : Context) : Context :=
  { c with currentSchema := none, cache := c.cache.clear }

end Context

/-- The ceilings that a reader keeps to. -/
structure Limits where
  pageSize : Int := Page.maxSize
  rowsPageSize : Int := Page.maxRowsSize
  queryRows : Int := ResultSet.maxRows

/-- A datasource with its server, and what happened so far. -/
structure Session (σ : Type) where
  context : Context := {}
  limits : Limits := {}
  server : σ
  events : List Event := []
  logs : List LogRecord := []

namespace Session

variable {σ : Type}

/-- The session after an action on a connection. -/
def record (s : Session σ) (c : ConnectionName) (actions : List Action) : Session σ :=
  { s with events := s.events ++ actions.map (⟨c, ·⟩) }

/-- The session with one more record of the datasource in its log. -/
def log (s : Session σ) (level : LogLevel) (message : String) : Session σ :=
  { s with logs := s.logs ++ [⟨.datasource, level, message⟩] }

/-- The session after closing a connection. A failure to close is noted and otherwise
    of no consequence. -/
def close [Server σ] (s : Session σ) (c : ConnectionName) : Session σ :=
  let (failure, server) := Server.close c s.server
  let s := { s with server }.record c [.close]
  match failure with
  | none => s
  | some message => s.log .warning ("Error closing connection: " ++ message)

/-- The session with another datasource. A schema that is given replaces the override,
    and the connection before is closed unless it is kept. -/
def configure [Server σ] (s : Session σ) (driver : Value) (connection : Option ConnectionName)
    (schema : Option String) : Outcome Engine × Session σ :=
  match Engine.parse driver with
  | .error f => (.error f, s)
  | .ok e =>
    let context := { s.context.forget with
      engine := some e, builder := some e, connection,
      override := schema.getD s.context.override }
    let next := { s with context }
    let next := match s.context.connection with
      | none => next
      | some c => if connection = some c then next else next.close c
    (.ok e, next.log .info ("Datasource configured: " ++ e.driverName))

/-- The session without a datasource. The override stays. -/
def disconnect [Server σ] (s : Session σ) : Session σ :=
  let next := { s with
    context := { s.context.forget with engine := none, builder := none, connection := none } }
  match s.context.connection with
  | none => next
  | some c => (next.close c).log .info "Datasource disconnected"

/-- The session that remembers a schema as the one that names without a schema
    belong to. -/
def rememberSchema (s : Session σ) (schema : Option String) : Session σ :=
  { s with context := { s.context with currentSchema := schema } }

/-- The connection and the builder of the active datasource. -/
def requireConnection (s : Session σ) : Outcome (ConnectionName × Engine) :=
  match s.context.active? with
  | some active => .ok active
  | none => refuse (.noConnection "")

end Session

/-- The failure of the server while it executed the query or handed out its rows. A
    result without columns is not fetched, so fetching it cannot fail. -/
def Reply.breakdown? (r : Reply) : Option String :=
  match r.failure with
  | some (.execute, message) => some message
  | some (.fetch, message) => if r.result.columns.isEmpty then none else some message
  | none => none

namespace Request

/-- What is done with an open cursor, given the reply to the query. -/
def actions (q : Request) (r : Reply) : List Action :=
  let executed := r.failure.all fun f => f.1 != .execute
  let fetch := match q.maxRows with
    | some n => Action.fetchMany n
    | none => Action.fetchAll
  .execute q.sql q.args
    :: (if executed && !r.result.columns.isEmpty then [fetch] else []) ++ [.closeCursor]

/-- The rows that the query fetches. A result without columns has none. -/
def fetched (q : Request) (r : Reply) : ResultSet :=
  if r.result.columns.isEmpty then {}
  else match q.maxRows with
    | some n => { r.result with rows := firstRows n r.result.rows }
    | none => r.result

/-- What comes of the query. Closing the cursor is not guarded and comes last, so what the
    server raises there takes the place of anything else. -/
def outcome (q : Request) (r : Reply) : Outcome ResultSet :=
  match r.closing, r.breakdown? with
  | some message, _ => .error (.raised message)
  | none, some message => refuse (.execution q.operation (some message))
  | none, none => .ok (q.fetched r)

/-- What is logged about the query: the failure that is caught, before the cursor is closed. -/
def notes (q : Request) (r : Reply) : List LogRecord :=
  (r.breakdown?.map fun message =>
    ⟨.datasource, .error, "Error " ++ q.operation ++ ": " ++ message⟩).toList

end Request

namespace Session

variable {σ : Type}

/-- The outcome of running a query, and the session afterwards. Opening a cursor is not
    guarded: what the server raises there reaches the caller. -/
def run [Server σ] (q : Request) (s : Session σ) : Outcome ResultSet × Session σ :=
  match s.requireConnection with
  | .error f => (.error f, s)
  | .ok (c, _) =>
    match Server.openCursor c s.server with
    | (some message, server) => (.error (.raised message), { s with server }.record c [.cursor])
    | (none, server) =>
      let (r, server) := Server.execute c q.sql q.args server
      (q.outcome r,
        { s with server, logs := s.logs ++ q.notes r }.record c (.cursor :: q.actions r))

end Session

end SqlCatalog
