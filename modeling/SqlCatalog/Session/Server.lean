import SqlCatalog.ResultSet

/-!
# Servers

What stands at the other end of the connections. The library owns no driver of a
database: it opens cursors, executes queries on them and closes what it opened,
and a server is whatever answers. Each of these operations may fail with a
message of the server's own.

## Main definitions

* `Request`: A query as it is handed to a server.
* `Reply`: What a server has to say about a query.
* `Server`: The behaviour of the other end.
* `Event`: What a connection was asked to do.
* `Script`: A server that says what was prepared for it.
-/

namespace SqlCatalog

/-- Connections are told apart by name. -/
abbrev ConnectionName := String

/-- A query as it is handed to a server: its text and arguments, what it is run for,
    and how many rows to fetch when not all of them. -/
structure Request where
  sql : String
  args : List Value := []
  operation : String
  maxRows : Option Int := none

/-- Where a server fails while a query is executed and its rows are fetched. -/
inductive Stage where
  | execute
  | fetch
deriving DecidableEq

/-- What a server has to say about a query. A result without columns is none and is
    not fetched. The cursor is closed in any case, so closing it may fail on its own
    and after another failure. -/
structure Reply where
  result : ResultSet := {}
  failure : Option (Stage × String) := none
  closing : Option String := none

/-- The behaviour of the other end of the connections. Opening a cursor and closing a
    connection end with a message when they fail; executing a query says beforehand
    how fetching its rows and closing its cursor will end. -/
class Server (σ : Type) where
  openCursor : ConnectionName → σ → Option String × σ
  execute : ConnectionName → String → List Value → σ → Reply × σ
  close : ConnectionName → σ → Option String × σ

/-- What a connection was asked to do. -/
inductive Action where
  | cursor
  | execute (sql : String) (args : List Value)
  | fetchAll
  | fetchMany (count : Int)
  | closeCursor
  | close

/-- An action on a connection. -/
structure Event where
  connection : ConnectionName
  action : Action

/-- What is prepared for one opening of a cursor: a failure, or a reply to the query
    that is executed on it. -/
inductive Prepared where
  | noCursor (message : String)
  | reply (r : Reply)

/-- A server that says what was prepared for it. Each connection has a queue of its
    own; an empty one is followed by empty results. -/
structure Script where
  queues : List (ConnectionName × List Prepared) := []
  closeFailures : List (ConnectionName × String) := []

namespace Script

/-- What is prepared for a connection. -/
def queue (s : Script) (c : ConnectionName) : List Prepared :=
  (s.queues.lookup c).getD []

/-- The script with another queue for a connection. -/
def setQueue (s : Script) (c : ConnectionName) (q : List Prepared) : Script :=
  { s with queues := (c, q) :: s.queues.filter (·.1 != c) }

/-- The script with more prepared for a connection. -/
def prepare (s : Script) (c : ConnectionName) (more : List Prepared) : Script :=
  s.setQueue c (s.queue c ++ more)

/-- The script in which closing a connection fails from now on. -/
def failClosing (s : Script) (c : ConnectionName) (message : String) : Script :=
  { s with closeFailures := (c, message) :: s.closeFailures }

/-- A cursor opens unless a failure is prepared next. -/
def openCursor (c : ConnectionName) (s : Script) : Option String × Script :=
  match s.queue c with
  | .noCursor message :: rest => (some message, s.setQueue c rest)
  | _ => (none, s)

/-- A query is answered with the reply that is prepared next. -/
def execute (c : ConnectionName) (s : Script) : Reply × Script :=
  match s.queue c with
  | .reply r :: rest => (r, s.setQueue c rest)
  | _ => ({}, s)

instance : Server Script where
  openCursor := openCursor
  execute c _ _ s := execute c s
  close c s := (s.closeFailures.lookup c, s)

end Script

end SqlCatalog
