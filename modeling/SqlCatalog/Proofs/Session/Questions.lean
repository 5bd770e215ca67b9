import SqlCatalog.Proofs.Cache.Key
import SqlCatalog.Reader.Method

/-!
# Which Questions a Call Asks

Two questions have a memory, the one for the current schema and the one for the columns of a
table, and what a call can leave in a session hangs on when and how often it asks them. Only two
methods ask for columns, and each of them asks once. Half of the methods ask for the current
schema, and browsing a table asks twice, but only where the caller names no schema, there is no
default, and the engine has schemas.

An inquiry is put together from smaller ones, and so is what it asks: `Asks needed n` is about all
answers that an inquiry may be given, and it adds up along `bind`. Looking up what was looked up
before is the one place where an answer counts. If the current schema is needed for that, it was
needed the first time.

## Main definitions

* `Frame.NeedsSchema`: Nothing but the current schema can stand for what a caller names.
* `Inquiry.Asks`: An inquiry asks for the current schema only where it is needed, and for columns
  a bounded number of times.
* `Inquiry.AsksColumns`: The bound alone.

## Theorems

* `Frame.resolveSchema_of_needs`, `Frame.resolveSchema_of_not_needs`: The current schema is asked
  for if and only if it is needed.
* `Inquiry.Asks.before`: A part that asks for no columns adds none.
* `Reader.asks_tableRows`: Browsing a table asks for columns once.
* `Reader.Method.asks`: No method asks for columns more than once, or for a schema without need.
-/

namespace SqlCatalog

/-! ### When the current schema is needed -/

/-- Without a name nothing was given that could be one. -/
theorem Identifier.of_resolveSchema_eq_empty {schema : Value} {default : String}
    (h : resolveSchema schema default = .ok "") : schema.isTruthy = false ∧ default = "" := by
  have hname {v : Value} : require v "schema" ≠ .ok "" := fun hrequire =>
    absurd (isName_of_require hrequire).2 (by decide)
  unfold resolveSchema at h
  by_cases hschema : schema.isTruthy = true
  · simp only [hschema, if_true] at h
    exact absurd h hname
  · simp only [hschema, Bool.false_eq_true, if_false] at h
    split at h
    · exact absurd h hname
    · rename_i hdefault
      exact ⟨Bool.eq_false_iff.mpr hschema, by simpa [Value.isTruthy] using hdefault⟩

namespace Frame

/-- Nothing but the current schema can stand for what a caller names: the caller names nothing,
    there is no default, and the engine has schemas. -/
def NeedsSchema (f : Frame) (schema : Value) : Prop :=
  schema.isTruthy = false ∧ f.defaultSchema = "" ∧
    ∃ e, f.engine = some e ∧ e.supports .schemas = true

/-- Looking a schema up is a question only where no name is at hand and the engine has schemas. -/
theorem resolveSchema_eq (f : Frame) (schema : Value) :
    f.resolveSchema schema =
      match f.requireEngine, Identifier.resolveSchema schema f.defaultSchema with
      | .error failure, _ => .done (.error failure)
      | .ok _, .error failure => .done (.error failure)
      | .ok e, .ok resolved =>
        if resolved = "" && e.supports .schemas then .currentSchema pure
        else .done (.ok resolved) := by
  unfold resolveSchema
  rcases f.requireEngine with failure | e
  · rfl
  · rcases Identifier.resolveSchema schema f.defaultSchema with failure | resolved
    · rfl
    · rfl

/-- The current schema is asked for where it is needed. -/
theorem resolveSchema_of_needs {f : Frame} {schema : Value} (h : f.NeedsSchema schema) :
    f.resolveSchema schema = .currentSchema pure := by
  obtain ⟨hschema, hdefault, e, hengine, hschemas⟩ := h
  have hnone : Identifier.resolveSchema schema f.defaultSchema = .ok "" := by
    rw [hdefault]
    simp only [Identifier.resolveSchema, hschema, Bool.false_eq_true, if_false]
    rfl
  rw [resolveSchema_eq, requireEngine, hengine, hnone]
  exact if_pos (by simpa using hschemas)

/-- Where it is not needed nothing is asked, nor is anything asked when the result is looked up. -/
theorem resolveSchema_of_not_needs {f : Frame} {schema : Value} (h : ¬f.NeedsSchema schema) :
    ∃ outcome, f.resolveSchema schema = .done outcome ∧
      ∀ found, outcome = .ok found → ¬f.NeedsSchema (.text found) := by
  rw [resolveSchema_eq]
  unfold requireEngine
  rcases hengine : f.engine with _ | e
  · exact ⟨_, rfl, fun found hfound => absurd hfound (by simp)⟩
  rcases hresolved : Identifier.resolveSchema schema f.defaultSchema with failure | resolved
  · exact ⟨_, rfl, fun found hfound => absurd hfound (by simp)⟩
  by_cases hasked : (resolved = "" && e.supports .schemas) = true
  · -- Then nothing could stand for a name, so it would be needed.
    obtain ⟨hnone, hschemas⟩ : resolved = "" ∧ e.supports .schemas = true := by
      simpa using hasked
    obtain ⟨hschema, hdefault⟩ := Identifier.of_resolveSchema_eq_empty (hnone ▸ hresolved)
    exact absurd ⟨hschema, hdefault, e, hengine, hschemas⟩ h
  · refine ⟨.ok resolved, if_neg hasked, ?_⟩
    rintro found hfound ⟨hnone, -, e', hengine', hschemas⟩
    cases hfound
    cases hengine.symm.trans hengine'
    exact hasked (by simpa [Value.isTruthy, hschemas] using hnone)

end Frame

/-! ### What an inquiry asks -/

namespace Inquiry

variable {α β : Type}

/-- The inquiry asks for the columns of tables `n` times at most, whatever it is told. -/
def AsksColumns : Inquiry α → Nat → Prop
  | .done _, _ => True
  | .run _ next, n => ∀ r, (next r).AsksColumns n
  | .currentSchema next, n => ∀ schema, (next schema).AsksColumns n
  | .columns _ _ _ next, n => ∃ m, n = m + 1 ∧ ∀ cs, (next cs).AsksColumns m

/-- The inquiry asks for the current schema only where that is needed, and by no query of its own,
    and for the columns of tables `n` times at most, whatever it is told. -/
def Asks (needed : Prop) : Inquiry α → Nat → Prop
  | .done _, _ => True
  | .run q next, n => q.operation ≠ "resolving current schema" ∧ ∀ r, (next r).Asks needed n
  | .currentSchema next, n => needed ∧ ∀ schema, (next schema).Asks needed n
  | .columns _ _ _ next, n => ∃ m, n = m + 1 ∧ ∀ cs, (next cs).Asks needed m

namespace Asks

variable {needed : Prop} {m n : Nat}

theorem asksColumns {i : Inquiry α} (h : i.Asks needed n) : i.AsksColumns n := by
  induction i generalizing n with
  | done outcome => trivial
  | run q next ih => exact fun r => ih r (h.2 r)
  | currentSchema next ih => exact fun schema => ih schema (h.2 schema)
  | columns e schema table next ih =>
      obtain ⟨k, rfl, hnext⟩ := h
      exact ⟨k, rfl, fun cs => ih cs (hnext cs)⟩

theorem mono {i : Inquiry α} {more : Prop} (h : i.Asks needed m) (hneeded : needed → more)
    (hle : m ≤ n) : i.Asks more n := by
  induction i generalizing m n with
  | done outcome => trivial
  | run q next ih => exact ⟨h.1, fun r => ih r (h.2 r) hle⟩
  | currentSchema next ih => exact ⟨hneeded h.1, fun schema => ih schema (h.2 schema) hle⟩
  | columns e schema table next ih =>
      obtain ⟨k, rfl, hnext⟩ := h
      exact ⟨n - 1, by omega, fun cs => ih cs (hnext cs) (by omega)⟩

/-- The questions of two inquiries add up, by induction on those of the first. -/
theorem add {i : Inquiry α} {f : α → Inquiry β} (hi : i.Asks needed m)
    (hf : ∀ a, (f a).Asks needed n) : (i.bind f).Asks needed (m + n) := by
  induction i generalizing m with
  | done outcome =>
      cases outcome with
      | error failure => trivial
      | ok a => exact (hf a).mono id (Nat.le_add_left n m)
  | run q next ih => exact ⟨hi.1, fun r => ih r (hi.2 r)⟩
  | currentSchema next ih => exact ⟨hi.1, fun schema => ih schema (hi.2 schema)⟩
  | columns e schema table next ih =>
      obtain ⟨k, rfl, hnext⟩ := hi
      exact ⟨k + n, by omega, fun cs => ih cs (hnext cs)⟩

/-- A part that asks for no columns adds none. -/
theorem before {i : Inquiry α} {f : α → Inquiry β} (hi : i.Asks needed 0)
    (hf : ∀ a, (f a).Asks needed n) : (i >>= f).Asks needed n := by
  have hadd := hi.add hf
  rwa [Nat.zero_add] at hadd

/-- Nor does one that comes after the questions. -/
theorem after {i : Inquiry α} {f : α → Inquiry β} (hi : i.Asks needed n)
    (hf : ∀ a, (f a).Asks needed 0) : (i >>= f).Asks needed n :=
  hi.add hf

/-- A step that asks nothing. -/
theorem lift (outcome : Outcome α) : (liftM outcome : Inquiry α).Asks needed n := trivial

theorem pure (a : α) : (Pure.pure a : Inquiry α).Asks needed n := trivial

/-- A step that runs the query of an operation. -/
theorem fetch {operation : String} (h : operation ≠ "resolving current schema") (e : Engine)
    (q : Option Query) (lacking : String) :
    (Inquiry.fetch e operation q lacking).Asks needed n := by
  cases q with
  | none => trivial
  | some q => exact ⟨h, fun r => trivial⟩

end Asks

end Inquiry

namespace Frame

theorem asks_resolveSchema (f : Frame) (schema : Value) :
    (f.resolveSchema schema).Asks (f.NeedsSchema schema) 0 := by
  by_cases hneeded : f.NeedsSchema schema
  · rw [resolveSchema_of_needs hneeded]
    exact ⟨hneeded, fun _ => trivial⟩
  · obtain ⟨outcome, hdone, -⟩ := resolveSchema_of_not_needs hneeded
    rw [hdone]
    trivial

/-- What comes after a schema is looked up may look it up again. -/
theorem asks_resolveSchema_bind (f : Frame) (schema : Value) {α : Type} {n : Nat}
    {next : String → Inquiry α}
    (hnext : ∀ found, (f.NeedsSchema (.text found) → f.NeedsSchema schema) →
      (next found).Asks (f.NeedsSchema schema) n) :
    (f.resolveSchema schema >>= next).Asks (f.NeedsSchema schema) n := by
  by_cases hneeded : f.NeedsSchema schema
  · exact .before (f.asks_resolveSchema schema) fun found => hnext found fun _ => hneeded
  · obtain ⟨outcome, hdone, hagain⟩ := resolveSchema_of_not_needs hneeded
    rw [hdone]
    cases outcome with
    | error failure => trivial
    | ok found => exact hnext found fun hneeds => absurd hneeds (hagain found rfl)

end Frame

namespace Reader

open Inquiry (Asks)

/-! ### Methods that ask for no columns -/

variable {needed : Prop}

theorem asks_listing {kind : String} (h : "listing " ++ kind ≠ "resolving current schema")
    (e : Engine) (page : Page) (q : Option Query) (lacking : String) :
    (listing e kind page q lacking).Asks needed 0 :=
  .before (.fetch h _ _ _) fun _ => .pure _

theorem asks_definition {kind : String}
    (h : "getting " ++ kind ++ " code" ≠ "resolving current schema") (e : Engine) (name : Value)
    (q : Option Query) (feature : Feature) : (definition e kind name q feature).Asks needed 0 := by
  refine .before (.fetch h _ _ _) fun r => ?_
  split
  · exact .before (.lift _) fun _ => .pure _
  · exact .pure _

/-- All listings look at the frame and the arguments and then run one query. -/
theorem asks_listings (f : Frame) (schema nameFilter kind table disabled pages : Value) :
    (listTables f schema nameFilter pages).Asks needed 0 ∧
      (listViews f schema nameFilter pages).Asks needed 0 ∧
      (listTriggers f schema table nameFilter disabled pages).Asks needed 0 ∧
      (listProcedures f schema nameFilter pages).Asks needed 0 ∧
      (listFunctions f schema nameFilter kind pages).Asks needed 0 := by
  refine ⟨?_, ?_, ?_, ?_, ?_⟩
  all_goals
    refine .before (.lift _) fun _ => .before (.lift _) fun _ => .before (.lift _) fun _ => ?_
    exact asks_listing (by decide) _ _ _ _

/-- All definitions are looked up in a schema by one query. -/
theorem asks_definitions (f : Frame) (name schema : Value) :
    (viewDefinition f name schema).Asks (f.NeedsSchema schema) 0 ∧
      (triggerCode f name schema).Asks (f.NeedsSchema schema) 0 ∧
      (procedureCode f name schema).Asks (f.NeedsSchema schema) 0 ∧
      (functionCode f name schema).Asks (f.NeedsSchema schema) 0 := by
  have hresolve := f.asks_resolveSchema schema
  refine ⟨?_, ?_, ?_, ?_⟩
  · refine .before hresolve fun _ => .before (.lift _) fun _ => .before (.lift _) fun _ => ?_
    exact asks_definition (by decide) _ _ _ _
  · refine .before hresolve fun _ => .before (.lift _) fun _ => .before (.lift _) fun _ => ?_
    exact asks_definition (by decide) _ _ _ _
  · refine .before (.lift _) fun _ => .before hresolve fun _ => .before (.lift _) fun _ => ?_
    exact asks_definition (by decide) _ _ _ _
  · refine .before (.lift _) fun _ => .before hresolve fun _ => .before (.lift _) fun _ => ?_
    exact asks_definition (by decide) _ _ _ _

theorem asks_procedureParameters (f : Frame) (name schema : Value) :
    (procedureParameters f name schema).Asks (f.NeedsSchema schema) 0 := by
  refine .before (.lift _) fun _ => .before (f.asks_resolveSchema schema) fun _ => ?_
  exact .before (.lift _) fun _ => .before (.fetch (by decide) _ _ _) fun _ => .lift _

theorem asks_tableExists (f : Frame) (table schema : Value) :
    (tableExists f table schema).Asks (f.NeedsSchema schema) 0 := by
  refine .before (f.asks_resolveSchema schema) fun _ => .before (.lift _) fun _ => ?_
  refine .before (.lift _) fun _ => .before (.fetch (by decide) _ _ _) fun r => ?_
  split
  · exact .pure _
  · exact .before (.lift _) fun _ => .pure _

theorem asks_describeTable (f : Frame) (table schema : Value) :
    (describeTable f table schema).Asks (f.NeedsSchema schema) 0 := by
  refine .before (f.asks_resolveSchema schema) fun _ => .before (.lift _) fun _ => ?_
  exact .before (.lift _) fun _ => .before (.fetch (by decide) _ _ _) fun _ => .pure _

/-- The structure of a table is asked for afresh, its columns included. -/
theorem asks_tableSchema (f : Frame) (table schema : Value) :
    (tableSchema f table schema).Asks (f.NeedsSchema schema) 0 := by
  refine .before (.lift _) fun _ => .before (f.asks_resolveSchema schema) fun _ => ?_
  refine .before (.lift _) fun _ => .before (.fetch (by decide) _ _ _) fun _ => ?_
  refine .before (.lift _) fun columns => ?_
  dsimp only
  split
  · trivial
  · refine .before (.lift _) fun _ => .before (.fetch (by decide) _ _ _) fun _ => ?_
    refine .before (.lift _) fun _ => .before (.fetch (by decide) _ _ _) fun _ => ?_
    refine .before (.lift _) fun _ => .before (.fetch (by decide) _ _ _) fun _ => ?_
    exact .before (.lift _) fun _ => .before (.lift _) fun _ => .before (.lift _) fun _ => .pure _

theorem asks_databaseInfo (f : Frame) : (databaseInfo f).Asks needed 0 := by
  have hfirst {operation : String} (h : operation ≠ "resolving current schema") (e : Engine)
      (q : Option Query) : (firstRecord e operation q).Asks needed 0 := by
    cases q with
    | none => exact .pure _
    | some q => exact .before (.fetch h _ _ _) fun _ => .pure _
  refine .before (.lift _) fun e => .before (.lift _) fun _ => ?_
  refine .before (.fetch (by decide) _ _ _) fun r => ?_
  dsimp only
  split
  -- The version may have to be read from a row; what comes then is the same in both cases.
  case' h_2 => refine .before (.lift _) fun _ => ?_
  all_goals
    refine .before (.pure _) fun _ => .before (.lift _) fun _ => ?_
    refine .before (hfirst (by decide) _ _) fun _ => .before (.lift _) fun _ => ?_
    refine .before (hfirst (by decide) _ _) fun _ => .before (.lift _) fun q => ?_
    cases q with
    | none => exact .before (.pure _) fun _ => .pure _
    | some q =>
        refine .before (.fetch (by decide) _ _ _) fun _ => .before (.lift _) fun _ => ?_
        exact .before (.pure _) fun _ => .pure _

theorem asks_listSchemas (f : Frame) : (listSchemas f).Asks needed 0 := by
  refine .before (.lift _) fun _ => .before (.lift _) fun _ => ?_
  exact .before (.fetch (by decide) _ _ _) fun _ => .lift _

theorem asks_searchObjects (f : Frame) (term inCode types : Value) :
    (searchObjects f term inCode types).Asks needed 0 := by
  refine .before (.lift _) fun _ => .before (.lift _) fun _ => ?_
  exact .before (.fetch (by decide) _ _ _) fun _ => .pure _

theorem asks_executeQuery (f : Frame) (sql : String) (maxRows : Value) :
    (executeQuery f sql maxRows).Asks needed 0 :=
  .before (.lift _) fun _ => .before (.lift _) fun _ => ⟨by simp, fun _ => .pure _⟩

/-! ### Methods that ask for columns -/

theorem asks_tableColumns (f : Frame) (table schema : Value) :
    (tableColumns f table schema).Asks (f.NeedsSchema schema) 1 :=
  .before (.lift _) fun _ => .before (f.asks_resolveSchema schema) fun _ =>
    ⟨0, rfl, fun _ => trivial⟩

/-- Browsing a table asks for its columns once, and after that only runs queries. -/
theorem asks_tableRows (f : Frame) (q : RowsRequest) :
    (tableRows f q).Asks (f.NeedsSchema q.schema) 1 := by
  refine .before (.lift _) fun e => .before (.lift _) fun _ => ?_
  refine f.asks_resolveSchema_bind q.schema fun found hneeded => .before (.lift _) fun page => ?_
  have hcolumns := asks_tableColumns f q.table (.text found)
  refine .after (hcolumns.mono hneeded Nat.le.refl) fun columns => ?_
  dsimp only
  split
  · trivial
  · refine .before (.lift _) fun _ => .before (.lift _) fun _ => .before (.lift _) fun _ => ?_
    refine .before (.lift _) fun _ => .before (.lift _) fun _ => .before (.lift _) fun _ => ?_
    refine .before (.lift _) fun _ => .before (.fetch (by decide) _ _ _) fun _ => ?_
    refine .before (.lift _) fun _ => .before (.lift _) fun _ => .before (.lift _) fun _ => ?_
    refine .before (.lift _) fun _ => ?_
    exact .before (.fetch (by decide) _ _ _) fun _ => .pure _

/-! ### All methods -/

/-- No method asks for columns more than once, or for the current schema unless the schema that
    the caller names leaves no other. -/
theorem Method.asks (m : Method) (f : Frame) (named : Arguments) :
    (m.inquiry f named).Asks (f.NeedsSchema (named.valueOr "schema" (.text ""))) 1 := by
  unfold Method.inquiry Signature.bind
  split
  case isFalse => trivial
  have hanswer {α : Type} {i : Inquiry α} {g : α → Value} {needed : Prop} (hi : i.Asks needed 0) :
      (i >>= fun a => Pure.pure (g a)).Asks needed 1 :=
    hi.before fun _ => .pure _
  have hasking {α : Type} {i : Inquiry α} {g : α → Value} {needed : Prop} (hi : i.Asks needed 1) :
      (i >>= fun a => Pure.pure (g a)).Asks needed 1 :=
    hi.after fun _ => .pure _
  cases m with
  | resolveSchema => exact hanswer (f.asks_resolveSchema _)
  | listTables => exact hanswer (asks_listings f _ _ .null .null .null _).1
  | listViews => exact hanswer (asks_listings f _ _ .null .null .null _).2.1
  | listTriggers => exact hanswer (asks_listings f _ _ .null _ _ _).2.2.1
  | listProcedures => exact hanswer (asks_listings f _ _ .null .null .null _).2.2.2.1
  | listFunctions => exact hanswer (asks_listings f _ _ _ .null .null _).2.2.2.2
  | tableExists => exact hanswer (asks_tableExists f _ _)
  | describeTable => exact hanswer (asks_describeTable f _ _)
  | getTableSchema => exact hanswer (asks_tableSchema f _ _)
  | tableColumns => exact hasking (asks_tableColumns f _ _)
  | listTableRows =>
      exact hasking (asks_tableRows f { schema := named.valueOr "schema" (.text ""), .. })
  | getViewDefinition => exact hanswer (asks_definitions f _ _).1
  | getTriggerCode => exact hanswer (asks_definitions f _ _).2.1
  | getProcedureCode => exact hanswer (asks_definitions f _ _).2.2.1
  | getFunctionCode => exact hanswer (asks_definitions f _ _).2.2.2
  | getProcedureParameters => exact hanswer (asks_procedureParameters f _ _)
  | databaseInfo => exact hanswer (asks_databaseInfo f)
  | listSchemas => exact hanswer (asks_listSchemas f)
  | searchObjects => exact hanswer (asks_searchObjects f _ _ _)
  | executeQuery =>
      refine .before (.lift _) fun given => .before (.lift _) fun sql => ?_
      exact hanswer (asks_executeQuery f sql _)

end Reader

end SqlCatalog
