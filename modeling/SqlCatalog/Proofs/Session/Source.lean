import SqlCatalog.Reader.Table

/-!
# A Source That Does Not Change

A database that answers every query in one way, for as long as it is asked. What a call
learns from such a source does not depend on when it asks, so each question has an
answer of its own, written here as a function of the source alone.

`Source.fresh` is the session that has just been configured on a source. What the
functions of a source say is what a fresh session is told, and `Session.On` is all that
has to stay as it is for a later session to be told the same.

## Main definitions

* `FixedServer`: A server with one reply for each query.
* `Source`: A configured connection to a fixed server.
* `Source.fresh`: The session that has just been configured on it.
* `Source.ask`, `Source.currentSchema`, `Source.resolveSchema`, `Source.load`,
  `Source.columns`: What it answers.
* `Session.On`: A session that is still configured on the source.

## Theorems

* `Session.On.run`: Running a query has the answer of the source.
* `Session.On.resolveSchema`: So has looking a schema up.
* `Session.On.loadColumns`: So has loading the columns of a table.
-/

namespace SqlCatalog

/-- A server with one reply for each query and its arguments. -/
structure FixedServer where
  reply : String → List Value → Reply

instance : Server FixedServer where
  openCursor _ s := (none, s)
  execute _ sql args s := (s.reply sql args, s)
  close _ s := (none, s)

/-- A configured connection to a fixed server. -/
structure Source where
  engine : Engine
  connection : ConnectionName
  override : String
  limits : Limits
  reply : String → List Value → Reply

namespace Source

/-- The session that has just been configured on the source. -/
def fresh (d : Source) : Session FixedServer where
  context := { engine := some d.engine, connection := some d.connection, override := d.override }
  limits := d.limits
  server := ⟨d.reply⟩

/-- What the source answers to a query. -/
def ask (d : Source) (q : Request) : Outcome ResultSet := q.outcome (d.reply q.sql q.args)

/-- The current schema of the source. -/
def currentSchema (d : Source) : Outcome String := do
  match ← Build.currentSchema d.engine with
  | none => refuse (.unsupported "resolving current schema")
  | some q =>
    let r ← d.ask ⟨q.sql d.engine, q.args, "resolving current schema", none⟩
    Session.namedSchema r

/-- The schema in which a name is looked up. -/
def resolveSchema (d : Source) (schema : Value) : Outcome String := do
  let resolved ← Identifier.resolveSchema schema d.fresh.context.defaultSchema
  if resolved = "" && d.engine.supports .schemas then d.currentSchema else return resolved

/-- The columns of a table in a schema. -/
def load (d : Source) (schema : String) (table : Value) : Outcome (List Value) := do
  match ← Build.getTableSchemaFull d.engine table (.text schema) with
  | none => refuse (.unsupported "getting columns")
  | some q =>
    let r ← d.ask ⟨q.sql d.engine, q.args, "getting columns", none⟩
    Catalog.columnNames d.engine r.rows

/-- The columns of a table in the schema that a caller names. -/
def columns (d : Source) (table schema : Value) : Outcome (List Value) := do
  let resolved ← d.resolveSchema schema
  let _ ← Session.columnKey d.engine resolved table
  d.load resolved table

end Source

namespace Session

/-- A session that is still configured on the source. The schema that it remembers, if
    it remembers one, is the current schema of the source. -/
structure On (d : Source) (s : Session FixedServer) : Prop where
  engine : s.context.builder = some d.engine
  connection : s.context.connection = some d.connection
  override : s.context.override = d.override
  limits : s.limits = d.limits
  server : s.server = ⟨d.reply⟩
  schema : ∀ x, s.context.currentSchema = some x → d.currentSchema = .ok x

namespace On

variable {d : Source} {s : Session FixedServer}

theorem fresh (d : Source) : On d d.fresh :=
  ⟨rfl, rfl, rfl, rfl, rfl, fun _ h => absurd h (by simp [Source.fresh])⟩

theorem active (h : On d s) : s.context.active? = some (d.connection, d.engine) := by
  rw [Context.active?, h.connection, h.engine]

theorem requireConnection (h : On d s) :
    s.requireConnection = .ok (d.connection, d.engine) := by
  rw [Session.requireConnection, h.active]

theorem frame (h : On d s) : s.frame = d.fresh.frame := by
  have hdefault : s.context.defaultSchema = d.fresh.context.defaultSchema := by
    rw [Context.defaultSchema, Context.defaultSchema, h.engine, h.override]
    rfl
  rw [Session.frame, Session.frame, h.active, hdefault, h.limits, (On.fresh d).active]
  rfl

/-- Running a query has the answer of the source and changes nothing but the records of
    what happened. -/
theorem run (h : On d s) (q : Request) :
    (s.run q).1 = d.ask q ∧ (s.run q).2.context = s.context ∧
      (s.run q).2.limits = s.limits ∧ (s.run q).2.server = s.server := by
  have hexecute : Server.execute d.connection q.sql q.args s.server =
      (d.reply q.sql q.args, s.server) := by
    rw [h.server]
    rfl
  have hopen : Server.openCursor d.connection s.server = (none, s.server) := rfl
  rw [Session.run, h.requireConnection]
  simp only [hopen, hexecute]
  exact ⟨rfl, rfl, rfl, rfl⟩

theorem of_context (h : On d s) {t : Session FixedServer} (hcontext : t.context = s.context)
    (hlimits : t.limits = s.limits) (hserver : t.server = s.server) : On d t where
  engine := by rw [hcontext, h.engine]
  connection := by rw [hcontext, h.connection]
  override := by rw [hcontext, h.override]
  limits := by rw [hlimits, h.limits]
  server := by rw [hserver, h.server]
  schema := by rw [hcontext]; exact h.schema

theorem after_run (h : On d s) (q : Request) : On d (s.run q).2 :=
  h.of_context (h.run q).2.1 (h.run q).2.2.1 (h.run q).2.2.2

/-- The current schema is what the source says, remembered or asked for. -/
theorem askCurrentSchema (h : On d s) :
    s.askCurrentSchema.1 = d.currentSchema ∧ On d s.askCurrentSchema.2 ∧
      s.askCurrentSchema.2.context.cache = s.context.cache := by
  rw [Session.askCurrentSchema]
  rcases hschema : s.context.currentSchema with _ | x
  · simp only [h.requireConnection]
    rcases hbuild : Build.currentSchema d.engine with f | _ | q
    · exact ⟨by rw [Source.currentSchema, hbuild]; rfl, h, rfl⟩
    · exact ⟨by rw [Source.currentSchema, hbuild]; rfl, h, rfl⟩
    · -- The source is asked once, and what it says is remembered.
      have hrun := h.run ⟨q.sql d.engine, q.args, "resolving current schema", none⟩
      have hafter := h.after_run ⟨q.sql d.engine, q.args, "resolving current schema", none⟩
      have hcurrent : d.currentSchema =
          (s.run ⟨q.sql d.engine, q.args, "resolving current schema", none⟩).1.bind
            Session.namedSchema := by
        rw [Source.currentSchema, hbuild, hrun.1]
        rfl
      simp only []
      rcases heq : s.run ⟨q.sql d.engine, q.args, "resolving current schema", none⟩ with ⟨o, t⟩
      rw [heq] at hrun hafter hcurrent
      have hcache : t.context.cache = s.context.cache := by rw [hrun.2.1]
      rcases o with f | r
      · exact ⟨hcurrent.symm, hafter, hcache⟩
      · have hnamed : d.currentSchema = Session.namedSchema r := hcurrent
        simp only []
        rcases hname : Session.namedSchema r with f | x
        · exact ⟨by rw [hnamed, hname], hafter, hcache⟩
        · refine ⟨by rw [hnamed, hname], ?_, hcache⟩
          exact { hafter with
            schema := fun y hy => by rw [← Option.some.inj hy, hnamed, hname] }
  · exact ⟨(h.schema x hschema).symm, h, rfl⟩

/-- A reader of the source asks for the current schema when nothing else names one. -/
theorem frame_resolveSchema (d : Source) (schema : Value) :
    d.fresh.frame.resolveSchema schema =
      match Identifier.resolveSchema schema d.fresh.context.defaultSchema with
      | .error f => .done (.error f)
      | .ok resolved =>
        if resolved = "" && d.engine.supports .schemas then .currentSchema pure
        else .done (.ok resolved) := by
  have hengine : d.fresh.frame.requireEngine = .ok d.engine := rfl
  have hdefault : d.fresh.frame.defaultSchema = d.fresh.context.defaultSchema := rfl
  rw [Frame.resolveSchema, hengine, hdefault]
  rcases Identifier.resolveSchema schema d.fresh.context.defaultSchema with f | resolved
  · rfl
  · rfl

/-- A schema is resolved as the source resolves it, and the cache is not touched. -/
theorem resolveSchema (h : On d s) (schema : Value) :
    ((s.frame.resolveSchema schema).exec s).1 = d.resolveSchema schema ∧
      On d ((s.frame.resolveSchema schema).exec s).2 ∧
      ((s.frame.resolveSchema schema).exec s).2.context.cache = s.context.cache := by
  rw [h.frame, frame_resolveSchema, Source.resolveSchema]
  rcases Identifier.resolveSchema schema d.fresh.context.defaultSchema with f | resolved
  · exact ⟨rfl, h, rfl⟩
  · by_cases hcurrent : (resolved = "" && d.engine.supports .schemas) = true
    · have hexec : (Inquiry.currentSchema pure).exec s = s.askCurrentSchema := by
        rw [Inquiry.exec]
        rcases s.askCurrentSchema with ⟨_ | x, t⟩ <;> rfl
      simp only [if_pos hcurrent, hexec]
      exact ⟨by rw [h.askCurrentSchema.1]; exact (if_pos hcurrent).symm, h.askCurrentSchema.2⟩
    · simp only [if_neg hcurrent]
      exact ⟨(if_neg hcurrent).symm, h, rfl⟩

/-- The columns are those that the source lists, and the cache is not touched. -/
theorem loadColumns (h : On d s) (schema : String) (table : Value) :
    (s.loadColumns d.engine schema table).1 = d.load schema table ∧
      On d (s.loadColumns d.engine schema table).2 ∧
      (s.loadColumns d.engine schema table).2.context.cache = s.context.cache := by
  rw [Session.loadColumns]
  rcases hbuild : Build.getTableSchemaFull d.engine table (.text schema) with f | _ | q
  · exact ⟨by rw [Source.load, hbuild]; rfl, h, rfl⟩
  · exact ⟨by rw [Source.load, hbuild]; rfl, h, rfl⟩
  · have hrun := h.run ⟨q.sql d.engine, q.args, "getting columns", none⟩
    have hafter := h.after_run ⟨q.sql d.engine, q.args, "getting columns", none⟩
    have hload : d.load schema table =
        (s.run ⟨q.sql d.engine, q.args, "getting columns", none⟩).1.bind
          fun r => Catalog.columnNames d.engine r.rows := by
      rw [Source.load, hbuild, hrun.1]
      rfl
    simp only []
    rcases heq : s.run ⟨q.sql d.engine, q.args, "getting columns", none⟩ with ⟨o, t⟩
    rw [heq] at hrun hafter hload
    have hcache : t.context.cache = s.context.cache := by rw [hrun.2.1]
    rcases o with f | r
    · exact ⟨hload.symm, hafter, hcache⟩
    · exact ⟨hload.symm, hafter, hcache⟩

end On

end Session

end SqlCatalog
