import SqlCatalog.Proofs.Query.Template

/-!
# Texts of Lookups

The templates of lookups, and of queries that bind nothing, keep the rules on every
engine. These facts are computed again when a template changes; what follows from them
holds for whatever templates keep the rules.

## Main definitions

* `Engine.lookupTemplate`, `Engine.plainTemplate`: The templates.
* `Engine.lookupOrigins`: What the arguments of a lookup come from.
* `Engine.KeptLookup`: The template of a lookup keeps the rules.

## Theorems

* `Engine.keptLookup`: So do all lookups on every engine.
* `keyed_plainTemplate`: So do the templates of queries that bind nothing.
-/

namespace SqlCatalog

namespace Engine

/-- The template of a lookup, empty for other operations. -/
def lookupTemplate (e : Engine) : Operation → Template
  | .describeTable => e.rules.tables.summary
  | .tableExists => e.rules.tables.existence
  | .getColumns => e.rules.tables.columns
  | .getTableSchemaFull => e.rules.tables.fullColumns
  | .getPrimaryKey => e.rules.tables.primaryKey
  | .getIndexes => e.rules.tables.indexes
  | .getForeignKeys => e.rules.tables.foreignKeys
  | .getProcedureCode => e.rules.procedures.code
  | .getProcedureParameters => e.rules.procedures.parameters
  | .getFunctionCode => e.rules.functions.code
  | .getViewDefinition => e.rules.views.definition
  | .getTriggerCode => e.rules.triggers.code
  | _ => []

/-- What the object of a lookup is named by. -/
def lookupName (op : Operation) : Origin :=
  if op.kind?.any (· matches .table) then .table else .name

/-- What the arguments of a lookup come from. -/
def lookupOrigins (e : Engine) (op : Operation) : List Origin :=
  if e.supports .schemas then [.schema, lookupName op] else [lookupName op]

/-- Whether a lookup embeds the name of a table because it cannot be bound. -/
def embedsTable (e : Engine) (op : Operation) : Bool :=
  !e.supports .schemas && op.kind?.any (· matches .table) && op != .tableExists

/-- Whether a template is a quoted table between two silent texts. -/
def Embeds (e : Engine) (t : Template) : Prop :=
  ∃ a b : List Char, t = [.sql (String.ofList a), .slot .table, .sql (String.ofList b)]
    ∧ e.silent none a = true ∧ e.silent none b = true

/-- A lookup keeps the rules: an engine lacks it, or its markers agree with what is bound,
    or it embeds a table that cannot be bound. -/
inductive KeptLookup (e : Engine) (op : Operation) : Prop
  | absent (h : e.lookupTemplate op = [])
  | bound (hbinds : e.embedsTable op = false)
      (hkeyed : Keyed e op (e.lookupOrigins op) false 1 (e.lookupTemplate op)
        (List.range' 1 (e.lookupOrigins op).length))
  | embedded (hembeds : e.embedsTable op = true) (hbetween : e.Embeds (e.lookupTemplate op))

set_option maxRecDepth 20000 in
theorem keptLookup_sqlServer (op : Operation) : KeptLookup .sqlServer op := by
  cases op
  all_goals first
    | exact .absent rfl
    | refine .bound rfl ?_
      repeat' first
        | exact .nil
        | refine .marker rfl (by decide +kernel) (by decide) ?_
        | refine .text (by decide +kernel) ?_

set_option maxRecDepth 20000 in
theorem keptLookup_postgres (op : Operation) : KeptLookup .postgres op := by
  cases op
  all_goals first
    | exact .absent rfl
    | refine .bound rfl ?_
      repeat' first
        | exact .nil
        | refine .marker rfl (by decide +kernel) (by decide) ?_
        | refine .text (by decide +kernel) ?_

set_option maxRecDepth 20000 in
theorem keptLookup_mysql (op : Operation) : KeptLookup .mysql op := by
  cases op
  all_goals first
    | exact .absent rfl
    | refine .bound rfl ?_
      repeat' first
        | exact .nil
        | refine .marker rfl (by decide +kernel) (by decide) ?_
        | refine .text (by decide +kernel) ?_

set_option maxRecDepth 20000 in
theorem keptLookup_oracle (op : Operation) : KeptLookup .oracle op := by
  cases op
  all_goals first
    | exact .absent rfl
    | refine .bound rfl ?_
      repeat' first
        | exact .nil
        | refine .marker rfl (by decide +kernel) (by decide) ?_
        | refine .text (by decide +kernel) ?_

theorem keptLookup_sqlite (op : Operation) : KeptLookup .sqlite op := by
  cases op
  all_goals first
    | exact .absent rfl
    | exact .embedded rfl ⟨_, _, rfl, by decide +kernel, by decide +kernel⟩
    | exact .bound rfl (.marker rfl (by decide +kernel) (by decide) .nil)

/-- The templates of lookups keep the rules on every engine. -/
theorem keptLookup (e : Engine) (op : Operation) : e.KeptLookup op := by
  cases e with
  | sqlServer => exact keptLookup_sqlServer op
  | postgres => exact keptLookup_postgres op
  | mysql => exact keptLookup_mysql op
  | oracle => exact keptLookup_oracle op
  | sqlite => exact keptLookup_sqlite op

end Engine

/-- The template of a query that binds nothing, empty for other operations. -/
def Engine.plainTemplate (e : Engine) : Operation → Template
  | .databaseVersion => e.rules.server.version
  | .databaseDetails => e.rules.server.details
  | .objectCounts => e.rules.server.objectCounts
  | .listSchemas => e.rules.server.schemas
  | _ => []

set_option maxRecDepth 20000 in
/-- The templates of queries that bind nothing keep the rules. -/
theorem keyed_plainTemplate (e : Engine) (op : Operation) :
    Keyed e op [] false 1 (e.plainTemplate op) [] := by
  cases op
  all_goals
    cases e
    all_goals repeat' first
      | exact .nil
      | refine .text (by decide +kernel) ?_

end SqlCatalog
