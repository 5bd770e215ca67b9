import SqlCatalog.CommandLine.Run
import SqlCatalog.Layout.Clauses
import SqlCatalog.Proofs.Cache.Transparency
import SqlCatalog.Proofs.Gate.Structural
import SqlCatalog.Proofs.Query.Agreement
import SqlCatalog.Proofs.Query.ProcedureCalls
import SqlCatalog.Proofs.Query.SelectedRows
import SqlCatalog.Proofs.Settings.Precedence

/-!
# The Schema of a Lookup on the Command Line

A query about one object needs a schema. The command line takes the one that is asked for or
else the one that is the engine's own (`BuildOptions.objectSchema_of_query`). What is configured
as the default schema is loaded and described, and the sources of a session go by it, but no
query of the command line does: a lookup without a schema has that of the engine whatever the
settings say (`schema_of_printed_lookup`).

The schema is read off the query (`Query.objectSchema`). A query on the rows of a table and a
call have it written before the object. Every other lookup binds it as its first argument, and
the first marker of the template is the one that the catalogue compares with a schema
(`Engine.keptLookup`).

## Main definitions

* `Query.objectSchema`: The schema of a query about one object.
* `Operation.lookups`: The operations about one object.
* `BuildOptions.schemaFor`: The schema that the command line takes.
* `Settings.schemaFor`: The schema of a call that names none.

## Theorems

* `Operation.objectSchema_of_build`: A query has the schema that it is given.
* `BuildOptions.objectSchema_of_query`: On the command line this hangs on the options alone.
* `schema_of_printed_lookup`: When a lookup is printed with the configured schema.
-/

namespace SqlCatalog

/-! ### The schema of a query -/

/-- The schema that is written before an object, empty where there is none. -/
def writtenSchema : List Piece → String
  | .name schema :: .sql "." :: _ => schema
  | _ => ""

/-- The schema of a query about one object, as the catalogue of the engine spells it. Queries
    on the rows of a table and calls write it before the object, and all others bind it as
    their first argument. -/
def Query.objectSchema (q : Query) (e : Engine) : Option Value :=
  match q.operation with
  | .selectRows =>
    some (.text (e.fold (writtenSchema (q.pieces.dropWhile (· ≠ .sql " FROM ")).tail)))
  | .countRows | .callProcedure => some (.text (e.fold (writtenSchema q.pieces.tail)))
  | _ => q.args.head?

theorem Query.objectSchema_of_lookup {q : Query} {e : Engine}
    (h : q.operation ∉ [.selectRows, .countRows, .callProcedure]) :
    q.objectSchema e = q.args.head? := by
  unfold objectSchema
  cases hop : q.operation with
  | selectRows | countRows | callProcedure =>
      rw [hop] at h
      exact absurd (by decide) h
  | _ => rfl

/-- A qualified name has its schema written before it, whatever follows that is no dot. -/
theorem writtenSchema_qualified {e : Engine} (hschemas : e.supports .schemas = true)
    (schema name : String) {rest : List Piece} (hrest : rest.head? ≠ some (.sql ".")) :
    writtenSchema (e.qualified schema name ++ rest) = schema := by
  unfold Engine.qualified
  rw [hschemas]
  by_cases hempty : schema = ""
  · -- The name stands alone, and would be taken for a schema only before a dot.
    rw [if_pos (by simp [hempty])]
    unfold writtenSchema
    split
    · rename_i h
      rw [List.singleton_append, List.cons.injEq] at h
      exact absurd (congrArg List.head? h.2) hrest
    · exact hempty.symm
  · rw [if_neg (by simp [hempty])]
    rfl

/-- Nothing vanishes in the spelling of a catalogue. -/
theorem Engine.fold_eq_empty_iff (e : Engine) {s : String} : e.fold s = "" ↔ s = "" := by
  unfold fold
  split
  · rw [Text.uppercase, ← String.toList_eq_nil_iff, String.toList_ofList, Text.upper,
      List.flatMap_eq_nil_iff, ← String.toList_eq_nil_iff]
    constructor
    · intro h
      refine List.eq_nil_iff_forall_not_mem.mpr fun c hc => ?_
      exact Gate.upperChar_ne_nil c (h c hc)
    · intro h c hc
      rw [h] at hc
      exact absurd hc List.not_mem_nil
  · exact Iff.rfl

namespace Build

variable {e : Engine} {op : Operation} {schema : String} {v : Value} {q : Query}

/-- Where there are schemas a lookup binds its schema first. -/
theorem args_of_bound (hschema : Identifier.IsSchema schema) (hv : v = .text schema)
    {t : Template} {name : String}
    (h : (do
      let schema ← schemaValue e v
      query op t [schema, .text (e.fold name)]) = .ok (some q)) :
    q.operation = op ∧ q.args.head? = some (.text (e.fold schema)) := by
  rw [hv, schemaValue_of_isSchema hschema] at h
  rw [eq_of_query h]
  exact ⟨rfl, rfl⟩

theorem args_of_objectLookup (hschemas : e.supports .schemas = true)
    (hschema : Identifier.IsSchema schema) (hv : v = .text schema) {t : Template} {name : Value}
    {kind : String} (h : objectLookup e op t v name kind = .ok (some q)) :
    q.operation = op ∧ q.args.head? = some (.text (e.fold schema)) := by
  obtain ⟨name, -, h⟩ := ok_of_bind h
  obtain ⟨-, h⟩ := supported_of_some h
  rw [hschemas] at h
  exact args_of_bound hschema hv h

theorem args_of_tableLookup (hschemas : e.supports .schemas = true)
    (hschema : Identifier.IsSchema schema) (hv : v = .text schema) {t : Template} {table : Value}
    (h : tableLookup e op t table v = .ok (some q)) :
    q.operation = op ∧ q.args.head? = some (.text (e.fold schema)) := by
  obtain ⟨name, -, h⟩ := ok_of_bind h
  obtain ⟨-, h⟩ := supported_of_some h
  rw [hschemas] at h
  exact args_of_bound hschema hv h

/-- The word before a table is no column. -/
theorem from_not_mem_columnPieces (columns : List String) :
    .sql " FROM " ∉ Selected.columnPieces columns := by
  unfold Selected.columnPieces
  split
  · decide
  · induction columns with
    | nil => exact List.not_mem_nil
    | cons c rest ih =>
        cases rest with
        | nil => simp [Engine.commaSeparated]
        | cons next more =>
            have hrest := ih (by simp)
            simp only [List.map_cons, Engine.commaSeparated, List.singleton_append,
              List.mem_cons, not_or]
            exact ⟨by simp, by decide, hrest⟩

/-- A selection of rows has its schema written before the table. -/
theorem objectSchema_of_selectRows (hschemas : e.supports .schemas = true)
    (hschema : Identifier.IsSchema schema) {s : Selection} (hs : s.schema = .text schema)
    (h : selectRows e s = .ok (some q)) : q.objectSchema e = some (.text (e.fold schema)) := by
  obtain ⟨table, named, columns, checked, order, -, -, -, hchecked, -, rfl⟩ :=
    exists_of_selectRows h
  rw [hs, ProcedureCall.checkedSchema_of_isSchema hschema] at hchecked
  obtain rfl := Except.ok.inj hchecked
  have hfront : ∀ p ∈ Piece.sql "SELECT " :: Selected.columnPieces columns,
      decide (p ≠ .sql " FROM ") = true := by
    refine List.forall_mem_cons.mpr ⟨by decide, fun p hp => ?_⟩
    exact decide_eq_true (ne_of_mem_of_not_mem hp (from_not_mem_columnPieces columns))
  -- What the columns are skipped for is the table with its schema.
  have htable : ((Piece.sql "SELECT " :: Selected.columnPieces columns ++ .sql " FROM " ::
      e.qualified schema table ++ filterClause s.filter ++
        .sql " " :: s.window.clause e order).dropWhile (· ≠ .sql " FROM ")).tail =
      e.qualified schema table ++
        (filterClause s.filter ++ .sql " " :: s.window.clause e order) := by
    simp only [List.append_assoc]
    rw [List.dropWhile_append_of_pos hfront]
    rfl
  have hrest : (filterClause s.filter ++ .sql " " :: s.window.clause e order).head? ≠
      some (.sql ".") := by
    unfold filterClause
    split <;> simp
  rw [Query.objectSchema]
  dsimp only
  rw [htable, writtenSchema_qualified hschemas schema table hrest]

/-- So does a count of rows. -/
theorem objectSchema_of_countRows (hschemas : e.supports .schemas = true)
    (hschema : Identifier.IsSchema schema) (hv : v = .text schema) {table : Value}
    {filter : List Piece} (h : countRows e table v filter = .ok (some q)) :
    q.objectSchema e = some (.text (e.fold schema)) := by
  obtain ⟨table, -, h⟩ := ok_of_bind h
  rw [hv, ProcedureCall.checkedSchema_of_isSchema hschema] at h
  have hrest : (filterClause filter).head? ≠ some (.sql ".") := by
    unfold filterClause
    split <;> simp
  have hwritten := writtenSchema_qualified hschemas schema table hrest
  rw [eq_of_query h]
  exact congrArg (fun s => some (Value.text (e.fold s))) hwritten

/-- Behind the word that calls it stands the procedure, and no dot behind that. -/
theorem tail_of_call (hschemas : e.supports .schemas = true) (procedure : List Piece)
    (arguments : List (String × List Piece)) :
    ∃ rest, (e.call procedure arguments).tail = procedure ++ rest ∧
      rest.head? ≠ some (.sql ".") := by
  unfold Engine.call
  cases e with
  | sqlServer =>
      refine ⟨_, rfl, ?_⟩
      split <;> simp
  | postgres | mysql | oracle =>
      refine ⟨_, List.append_assoc .., ?_⟩
      simp
  | sqlite => exact absurd hschemas (by decide)

/-- So does the call of a procedure. -/
theorem objectSchema_of_callProcedure (hschemas : e.supports .schemas = true)
    (hschema : Identifier.IsSchema schema) (hv : v = .text schema) {name : Value}
    {arguments : List (Value × Value)} {declared : Option (List ParameterInfo)}
    (h : callProcedure e name v arguments declared = .ok (some q)) :
    q.objectSchema e = some (.text (e.fold schema)) := by
  obtain ⟨-, h⟩ := supported_of_some h
  obtain ⟨procedure, -, h⟩ := ok_of_bind h
  obtain ⟨checked, hchecked, h⟩ := ok_of_bind h
  rw [hv, ProcedureCall.checkedSchema_of_isSchema hschema] at hchecked
  obtain rfl := Except.ok.inj hchecked
  obtain ⟨given, -, h⟩ := ok_of_bind h
  -- With and without declared parameters it is the order of the arguments that differs.
  obtain ⟨marked, args, hq⟩ : ∃ marked args,
      q = ⟨.callProcedure, e.call (e.qualified schema procedure) marked, args⟩ := by
    cases declared with
    | none =>
        obtain ⟨ordered, -, h⟩ := ok_of_bind h
        exact ⟨_, _, eq_of_query h⟩
    | some parameters =>
        obtain ⟨ordered, -, h⟩ := ok_of_bind h
        exact ⟨_, _, eq_of_query h⟩
  obtain ⟨rest, htail, hrest⟩ := tail_of_call hschemas (e.qualified schema procedure) marked
  have hwritten := writtenSchema_qualified hschemas schema procedure hrest
  rw [hq, Query.objectSchema]
  dsimp only
  rw [htail, hwritten]

end Build

namespace Operation

/-- The operations about one object, which has a schema. -/
def lookups : List Operation := [
  .describeTable, .tableExists, .getColumns, .getTableSchemaFull, .getPrimaryKey, .getIndexes,
  .getForeignKeys, .getProcedureCode, .getProcedureParameters, .getFunctionCode,
  .getViewDefinition, .getTriggerCode, .selectRows, .countRows, .callProcedure]

/-- The command line knows them by their parameters. -/
theorem isLookup_iff {op : Operation} :
    CommandLine.BuildOptions.isLookup op = true ↔ op ∈ lookups := by
  cases op <;> decide

/-- The query of an operation about one object has the schema that it is given. -/
theorem objectSchema_of_build {e : Engine} {op : Operation} {arguments : Arguments}
    {schema : String} {q : Query} (hschemas : e.supports .schemas = true)
    (hlookup : CommandLine.BuildOptions.isLookup op = true)
    (hschema : Identifier.IsSchema schema)
    (hgiven : arguments.valueOr "schema" (.text "") = .text schema)
    (h : op.build e arguments = .ok (some q)) :
    q.objectSchema e = some (.text (e.fold schema)) := by
  obtain ⟨given, hbind, hbuilt⟩ := ok_of_bind h
  rw [← eq_of_bind hbind] at hgiven
  have hlookups (hop : op ∉ [.selectRows, .countRows, .callProcedure])
      (hargs : q.operation = op ∧ q.args.head? = some (.text (e.fold schema))) :
      q.objectSchema e = some (.text (e.fold schema)) :=
    (Query.objectSchema_of_lookup (hargs.1 ▸ hop)).trans hargs.2
  cases op with
  | describeTable | getColumns | getTableSchemaFull | getPrimaryKey | getIndexes
  | getForeignKeys =>
      exact hlookups (by decide) (Build.args_of_tableLookup hschemas hschema hgiven hbuilt)
  | tableExists | getViewDefinition | getTriggerCode =>
      exact hlookups (by decide) (Build.args_of_objectLookup hschemas hschema hgiven hbuilt)
  | getProcedureCode | getProcedureParameters | getFunctionCode =>
      exact hlookups (by decide)
        (Build.args_of_objectLookup hschemas hschema hgiven (supported_of_some hbuilt).2)
  | selectRows =>
      obtain ⟨_, -, hbuilt⟩ := ok_of_bind hbuilt
      obtain ⟨direction, -, hbuilt⟩ := ok_of_bind hbuilt
      exact Build.objectSchema_of_selectRows hschemas hschema hgiven hbuilt
  | countRows =>
      exact Build.objectSchema_of_countRows hschemas hschema hgiven hbuilt
  | callProcedure =>
      obtain ⟨-, hbuilt⟩ := supported_of_some hbuilt
      obtain ⟨entries, -, hbuilt⟩ := ok_of_bind hbuilt
      obtain ⟨declared, -, hbuilt⟩ := ok_of_bind hbuilt
      exact Build.objectSchema_of_callProcedure hschemas hschema hgiven hbuilt
  | _ => exact absurd hlookup (by decide)

end Operation

/-! ### The command line -/

/-- The schema of a caller, if there is one, or else the default. -/
theorem Identifier.of_resolveSchema {schema default resolved : String}
    (h : resolveSchema (.text schema) default = .ok resolved) :
    IsSchema resolved ∧ resolved = if schema = "" then default else schema := by
  have hwanted : (if (Value.text schema).isTruthy then Value.text schema else .text default) =
      .text (if schema = "" then default else schema) := by
    by_cases hempty : schema = ""
    · rw [if_pos hempty, hempty]
      rfl
    · rw [if_neg hempty, if_pos (by simpa [Value.isTruthy] using hempty)]
  unfold resolveSchema at h
  dsimp only at h
  rw [hwanted] at h
  generalize (if schema = "" then default else schema) = wanted at h ⊢
  split at h
  · obtain ⟨heq, hname⟩ := isName_of_require h
    exact ⟨Or.inr hname, (Value.text.inj heq).symm⟩
  · rename_i hfalsy
    have hempty : wanted = "" := by simpa [Value.isTruthy] using hfalsy
    rw [← Except.ok.inj h]
    exact ⟨Or.inl rfl, hempty.symm⟩

/-- An argument is found where it stands first among those that are kept. -/
theorem Arguments.valueOr_filter_cons {p : String × Value → Bool} {name : String} {v d : Value}
    {rest : Arguments} (h : p (name, v) = true) :
    Arguments.valueOr (List.filter p ((name, v) :: rest)) name d = v := by
  rw [List.filter_cons_of_pos h, valueOr, List.lookup_cons_self, Option.getD_some]

namespace CommandLine.BuildOptions

variable {o : BuildOptions} {e : Engine}

/-- The schema of a lookup on the command line: the one that is asked for, or else the
    engine's own. -/
def schemaFor (o : BuildOptions) (e : Engine) : String :=
  if o.schema = "" then e.rules.defaultSchema else o.schema

/-- What a lookup is asked for on the command line holds this schema. -/
theorem schema_of_named {arguments : Arguments} (hlookup : isLookup o.operation = true)
    (h : o.named e = .ok arguments) :
    Identifier.IsSchema (o.schemaFor e) ∧
      arguments.valueOr "schema" (.text "") = .text (o.schemaFor e) := by
  unfold named at h
  dsimp only at h
  rw [if_pos hlookup] at h
  obtain ⟨schema, hschema, h⟩ := ok_of_bind h
  obtain ⟨hvalid, rfl⟩ := Identifier.of_resolveSchema hschema
  refine ⟨hvalid, ?_⟩
  split at h
  · rw [← Except.ok.inj h]
    rfl
  · obtain ⟨given, -, h⟩ := ok_of_bind h
    -- The schema is the first candidate, and every lookup accepts one.
    have haccepts : o.operation.signature.accepts "schema" = true := by
      revert hlookup
      cases o.operation <;> decide
    rw [← Except.ok.inj h]
    exact Arguments.valueOr_filter_cons haccepts

/-- The query of the options is built from what they ask for. -/
theorem build_of_query {s : Settings} {q : Query} (h : o.query s = .ok (e, q)) :
    ∃ arguments, o.named e = .ok arguments ∧ o.operation.build e arguments = .ok (some q) := by
  unfold query at h
  -- The engine of the options and that of the settings are branches that go on alike.
  split at h
  all_goals
    obtain ⟨f, -, h⟩ := ok_of_bind h
    obtain ⟨arguments, hnamed, h⟩ := ok_of_bind h
    obtain ⟨built, hbuild, h⟩ := ok_of_bind h
    cases built with
    | none => exact absurd h (by simp [refuse])
    | some r =>
        obtain ⟨rfl, rfl⟩ := Prod.mk.inj (Except.ok.inj h)
        exact ⟨arguments, hnamed, hbuild⟩

/-- The query of a lookup has this schema, whatever the settings say. -/
theorem objectSchema_of_query {s : Settings} {q : Query} (hlookup : isLookup o.operation = true)
    (hschemas : e.supports .schemas = true) (h : o.query s = .ok (e, q)) :
    q.objectSchema e = some (.text (e.fold (o.schemaFor e))) := by
  obtain ⟨arguments, hnamed, hbuild⟩ := build_of_query h
  obtain ⟨hschema, hgiven⟩ := schema_of_named hlookup hnamed
  exact Operation.objectSchema_of_build hschemas hlookup hschema hgiven hbuild

end CommandLine.BuildOptions

/-- A build of the command line prints its query. -/
theorem CommandLine.Invocation.run_build {i : Invocation} {w : Surroundings} {o : BuildOptions}
    {s : Settings} {e : Engine} {q : Query} (hcommand : i.command = some (.build o))
    (hload : (Settings.load w.readFile i.config w.environment).2 = .ok s)
    (hquery : o.query s = .ok (e, q)) :
    (i.run w).exitCode = exitOk ∧ (i.run w).output = printed [
      Layout.apply w.formatter o.style (q.sql e), "-- args: " ++ (Value.list q.args).json] := by
  unfold run
  rw [hcommand]
  dsimp only
  rw [hload]
  dsimp only [Command.perform]
  rw [hquery]
  exact ⟨rfl, rfl⟩

/-! ### The configured default -/

/-- The schema of a call that names none: the configured default, if there is one, or else the
    engine's own. -/
def Settings.schemaFor (s : Settings) (e : Engine) : String :=
  if s.defaultSchema = "" then e.rules.defaultSchema else s.defaultSchema

/-- The catalogue tells the default schema of its engine from every other one. -/
theorem Engine.fold_eq_own_iff (e : Engine) {schema : String} :
    e.fold schema = e.fold e.rules.defaultSchema ↔ schema = e.rules.defaultSchema := by
  -- The one engine that folds names has no default of its own.
  cases e with
  | oracle => exact Engine.oracle.fold_eq_empty_iff
  | _ => exact Iff.rfl

/-- A lookup on the command line that names no schema is printed with the engine's own, on
    every engine with schemas and in the layout of whatever formatter the run is given. So it is
    printed with the schema of a call that names none if and only if no other default is
    configured. -/
theorem schema_of_printed_lookup {i : CommandLine.Invocation} {w : CommandLine.Surroundings}
    {o : CommandLine.BuildOptions} {s : Settings} {e : Engine} {q : Query}
    (hcommand : i.command = some (.build o))
    (hload : (Settings.load w.readFile i.config w.environment).2 = .ok s)
    (hquery : o.query s = .ok (e, q)) (hschemas : e.supports .schemas = true)
    (hlookup : o.operation ∈ Operation.lookups) (hnone : o.schema = "") :
    (i.run w).output = CommandLine.printed [
      Layout.apply w.formatter o.style (q.sql e), "-- args: " ++ (Value.list q.args).json] ∧
    q.objectSchema e = some (.text (e.fold e.rules.defaultSchema)) ∧
    (q.objectSchema e = some (.text (e.fold (s.schemaFor e))) ↔
      s.defaultSchema = "" ∨ s.defaultSchema = e.rules.defaultSchema) := by
  have hschema : q.objectSchema e = some (.text (e.fold e.rules.defaultSchema)) := by
    have hasked : o.schemaFor e = e.rules.defaultSchema := if_pos hnone
    rw [← hasked]
    exact CommandLine.BuildOptions.objectSchema_of_query (Operation.isLookup_iff.mpr hlookup)
      hschemas hquery
  refine ⟨(CommandLine.Invocation.run_build hcommand hload hquery).2, hschema, ?_⟩
  rw [hschema, Option.some.injEq, Value.text.injEq, eq_comm, e.fold_eq_own_iff, Settings.schemaFor]
  by_cases hempty : s.defaultSchema = ""
  · rw [if_pos hempty]
    exact ⟨fun _ => Or.inl hempty, fun _ => rfl⟩
  · rw [if_neg hempty, or_iff_right hempty]

/-- Whether there is a table, with no schema and no driver named. -/
def ordersExist : CommandLine.BuildOptions :=
  { operation := .tableExists, name := "orders", style := .singleLine }

/-- A run that finds a default schema in the environment, and lays statements out by clauses. -/
def configured (schema : String) : CommandLine.Surroundings where
  readFile _ := none
  environment := [("DB_DEFAULT_SCHEMA", schema)]
  input := ""
  stamp := ""
  formatter := Layout.byClauses

/-- Such a run has the default schema in its settings, and everything else as it is. -/
theorem load_configured (schema : String) (h : Identifier.isName schema.toList = true) :
    (Settings.load (configured schema).readFile "" (configured schema).environment).2 =
      .ok { defaultSchema := schema } := by
  have hempty : schema ≠ "" := by
    rintro rfl
    exact absurd h (by decide)
  have hread : Overrides.readSchema (.text schema) = .ok schema := by
    have htruthy : (Value.text schema).isTruthy = true := by
      simpa [Value.isTruthy] using hempty
    rw [Overrides.readSchema, htruthy]
    exact if_pos h
  refine (Settings.load_eq_ok_iff rfl .nil).mpr ⟨Settings.describable_default, {},
    { defaultSchema := some schema }, Overrides.reads_nil_iff.mpr rfl, ?_, rfl⟩
  refine Settings.reads_environmentEntries_iff.mpr fun k => ?_
  cases k with
  | defaultSchema =>
      have htext : Setting.defaultSchema.textIn (configured schema).environment = some schema :=
        Settings.filter_nonempty hempty
      rw [htext]
      exact ⟨schema, hread, rfl⟩
  | _ => rfl

/-- What is printed for it: the query on one line, with the engine's own schema as its first
    argument. -/
def printedExistence : String :=
  "SELECT COUNT(*) FROM INFORMATION_SCHEMA.TABLES " ++
    "WHERE TABLE_SCHEMA = @p1 AND TABLE_NAME = @p2\n-- args: [\"dbo\", \"orders\"]\n"

/-- Where the configured default is the engine's own, a lookup is printed with it. -/
theorem schema_of_printed_existence :
    ∃ s q, (Settings.load (configured "dbo").readFile "" (configured "dbo").environment).2 =
        .ok s ∧
      ordersExist.query s = .ok (.sqlServer, q) ∧
      (CommandLine.Invocation.run { command := some (.build ordersExist) }
        (configured "dbo")).output = printedExistence ∧
      q.objectSchema .sqlServer = some (.text "dbo") ∧
      q.objectSchema .sqlServer =
        some (.text (Engine.sqlServer.fold (s.schemaFor .sqlServer))) := by
  have hload := load_configured "dbo" (by decide)
  have hquery : ordersExist.query { defaultSchema := "dbo" } =
      .ok (.sqlServer, ⟨.tableExists, Engine.sqlServer.rules.tables.existence,
        [.text "dbo", .text "orders"]⟩) := rfl
  obtain ⟨hprinted, hown, hconfigured⟩ := schema_of_printed_lookup
    (i := { command := some (.build ordersExist) }) rfl hload hquery rfl (by decide) rfl
  refine ⟨_, _, hload, hquery, ?_, hown, hconfigured.mpr (Or.inr rfl)⟩
  rw [hprinted]
  decide +kernel

/-- How many rows a table has, with no schema named. -/
def countOfOrders : CommandLine.BuildOptions :=
  { operation := .countRows, driver := "postgres", table := "orders", style := .singleLine }

/-- Where another default is configured, a lookup is printed without it. -/
theorem configured_schema_not_printed :
    ∃ s q, (Settings.load (configured "reporting").readFile ""
        (configured "reporting").environment).2 = .ok s ∧
      s.defaultSchema = "reporting" ∧ Identifier.isName "reporting".toList = true ∧
      countOfOrders.query s = .ok (.postgres, q) ∧
      q.objectSchema .postgres = some (.text "public") ∧
      q.objectSchema .postgres ≠ some (.text (Engine.postgres.fold (s.schemaFor .postgres))) ∧
      (CommandLine.Invocation.run
        { plainConsole := true, command := some (.build countOfOrders) }
        (configured "reporting")).output =
          "SELECT COUNT(*) FROM \"public\".\"orders\"\n-- args: []\n" := by
  refine ⟨{ defaultSchema := "reporting" }, ⟨.countRows, [.sql "SELECT COUNT(*) FROM ",
    .name "public", .sql ".", .name "orders"], []⟩, load_configured "reporting" (by decide), rfl,
    by decide, rfl, rfl, ?_, by decide +kernel⟩
  intro h
  exact absurd (Value.text.inj (Option.some.inj h)) (by decide)

end SqlCatalog
