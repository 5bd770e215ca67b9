import SqlCatalog.Catalog.Decode
import SqlCatalog.Query.Build
import SqlCatalog.Session.Basic

/-!
# Inquiries

What a reader asks of a session, as data. An inquiry asks one question after the
other and chooses the next one by the answers so far, until it is done. There
are three questions: run a query, tell the current schema, tell the columns of a
table. The last two are answered from what the session has learnt where that is
possible, so what a reader can leave behind in a session is decided here, once,
and not in the reader.

## Main definitions

* `Inquiry`: The tree of questions.
* `Inquiry.exec`: The course of an inquiry on a session.
* `Session.askCurrentSchema`, `Session.askColumns`: The questions with a memory.

## Theorems

* `Inquiry.bind_assoc`: It does not matter where an inquiry is taken apart.
* `Inquiry.exec_bind`: An inquiry after another runs on the session that the first
  one leaves.
-/

namespace SqlCatalog

/-- A course of questions to a session with an answer or a failure at its end. -/
inductive Inquiry (α : Type) where
  | done (outcome : Outcome α)
  | run (q : Request) (next : ResultSet → Inquiry α)
  | currentSchema (next : String → Inquiry α)
  | columns (e : Engine) (schema : String) (table : Value) (next : List Value → Inquiry α)

namespace Inquiry

variable {α β : Type}

/-- The inquiry that goes on with the answer of another one. -/
def bind : Inquiry α → (α → Inquiry β) → Inquiry β
  | .done (.ok a), f => f a
  | .done (.error failure), _ => .done (.error failure)
  | .run q next, f => .run q fun r => (next r).bind f
  | .currentSchema next, f => .currentSchema fun s => (next s).bind f
  | .columns e schema table next, f => .columns e schema table fun cs => (next cs).bind f

/-- It does not matter where an inquiry is taken apart. -/
theorem bind_assoc {γ : Type} (i : Inquiry α) (f : α → Inquiry β) (g : β → Inquiry γ) :
    (i.bind f).bind g = i.bind fun a => (f a).bind g := by
  induction i with
  | done outcome => cases outcome <;> rfl
  | run q next ih => exact congrArg (Inquiry.run q) (funext ih)
  | currentSchema next ih => exact congrArg Inquiry.currentSchema (funext ih)
  | columns e schema table next ih =>
    exact congrArg (Inquiry.columns e schema table) (funext ih)

/-- An outcome that is put together from others is an inquiry that asks nothing in between. -/
theorem done_bind (x : Outcome α) (f : α → Outcome β) :
    (done (x.bind f) : Inquiry β) = (done x).bind fun a => .done (f a) := by
  cases x <;> rfl

instance : Monad Inquiry where
  pure a := .done (.ok a)
  bind := bind

instance : MonadLift (Except Failure) Inquiry where
  monadLift := .done

/-- Runs the query of an operation. An engine that lacks the operation is an error,
    which names what is lacking. -/
def fetch (e : Engine) (operation : String) (q : Option Query) (lacking : String := operation) :
    Inquiry ResultSet :=
  match q with
  | none => .done (refuse (.unsupported lacking))
  | some q => .run ⟨q.sql e, q.args, operation, none⟩ pure

end Inquiry

namespace Session

variable {σ : Type}

/-- The schema that the answer to the query for the current schema names, empty when it
    names none. -/
def namedSchema (r : ResultSet) : Outcome String := do
  match r.rows with
  | [] => return ""
  | row :: _ =>
    let v ← Catalog.firstCell row
    return if v.isTruthy then v.plain else ""

/-- The schema that names without one belong to. The server is asked once, and its
    answer is remembered. -/
def askCurrentSchema [Server σ] (s : Session σ) : Outcome String × Session σ :=
  match s.context.currentSchema with
  | some schema => (.ok schema, s)
  | none =>
    match s.requireConnection with
    | .error f => (.error f, s)
    | .ok (_, e) =>
      match Build.currentSchema e with
      | .error f => (.error f, s)
      | .ok none => (refuse (.unsupported "resolving current schema"), s)
      | .ok (some q) =>
        match s.run ⟨q.sql e, q.args, "resolving current schema", none⟩ with
        | (.error f, s) => (.error f, s)
        | (.ok r, s) =>
          match namedSchema r with
          | .error f => (.error f, s)
          | .ok schema => (.ok schema, s.rememberSchema (some schema))

/-- The key that the columns of a table are cached under. Bytes can be looked up but
    never name a table, and other values cannot be looked up. -/
def columnKey (e : Engine) (schema : String) (table : Value) : Outcome String :=
  match table with
  | .text name => .ok (ColumnCache.key e.driverName schema name)
  | .bytes .view _ => .error (.misuse .notText)
  | .bytes _ _ => refuse (.identifier table "table")
  | _ => .error (.misuse .notText)

/-- The columns of a table as the server lists them. -/
def loadColumns [Server σ] (e : Engine) (schema : String) (table : Value) (s : Session σ) :
    Outcome (List Value) × Session σ :=
  match Build.getTableSchemaFull e table (.text schema) with
  | .error f => (.error f, s)
  | .ok none => (refuse (.unsupported "getting columns"), s)
  | .ok (some q) =>
    match s.run ⟨q.sql e, q.args, "getting columns", none⟩ with
    | (.error f, s) => (.error f, s)
    | (.ok r, s) => (Catalog.columnNames e r.rows, s)

/-- The session with another cache. -/
def withCache (s : Session σ) (cache : ColumnCache) : Session σ :=
  { s with context := { s.context with cache } }

/-- The columns of a table, from the cache where it has them. -/
def askColumns [Server σ] (e : Engine) (schema : String) (table : Value) (s : Session σ) :
    Outcome (List Value) × Session σ :=
  match columnKey e schema table with
  | .error f => (.error f, s)
  | .ok key =>
    match s.context.cache.hit? key with
    | some (columns, cache) => (.ok columns, s.withCache cache)
    | none =>
      let (loaded, s) := s.loadColumns e schema table
      let reply := s.context.cache.ask key loaded
      (reply.columns, s.withCache reply.cache)

end Session

namespace Inquiry

variable {σ α β : Type}

/-- The course of an inquiry: its outcome, and the session afterwards. -/
def exec [Server σ] : Inquiry α → Session σ → Outcome α × Session σ
  | .done outcome, s => (outcome, s)
  | .run q next, s =>
    match s.run q with
    | (.error f, s) => (.error f, s)
    | (.ok r, s) => (next r).exec s
  | .currentSchema next, s =>
    match s.askCurrentSchema with
    | (.error f, s) => (.error f, s)
    | (.ok schema, s) => (next schema).exec s
  | .columns e schema table next, s =>
    match s.askColumns e schema table with
    | (.error f, s) => (.error f, s)
    | (.ok names, s) => (next names).exec s

/-- An inquiry after another runs on the session that the first one leaves, and not at
    all when the first one fails. -/
theorem exec_bind [Server σ] (i : Inquiry α) (f : α → Inquiry β) (s : Session σ) :
    (i.bind f).exec s =
      match i.exec s with
      | (.error failure, s) => (.error failure, s)
      | (.ok a, s) => (f a).exec s := by
  induction i generalizing s with
  | done outcome => cases outcome <;> rfl
  | run q next ih =>
    simp only [bind, exec]
    split
    · rfl
    · exact ih _ _
  | currentSchema next ih =>
    simp only [bind, exec]
    split
    · rfl
    · exact ih _ _
  | columns e schema table next ih =>
    simp only [bind, exec]
    split
    · rfl
    · exact ih _ _

end Inquiry

end SqlCatalog
