import SqlCatalog.Proofs.Cache.Warm

/-!
# How Far the Cache Is Transparent

A session that has answered calls before answers as a fresh one does, unless two tables
differ in the case of their letters only. Their lists have one key, and whichever table
was asked for first answers for both. An engine that folds the case of names has no two
such tables; on it a cached list can stand in for a refusal at most, when a spelling
that is no name has the key of one.

## Main definitions

* `Session.schemaOf`: The schema that a session resolves.
* `Confused`: A call that named another table with the same key.

## Theorems

* `names_of_load`: A source lists columns for names only.
* `load_eq_of_folded`: An engine that folds names has one list for all spellings.
* `columnsOf_afterCalls`: A warm session answers as a fresh one, up to letter case.
-/

namespace SqlCatalog

/-- The schema that a session looks a name up in. -/
def Session.schemaOf {σ : Type} [Server σ] (s : Session σ) (schema : Value) : Outcome String :=
  ((s.frame.resolveSchema schema).exec s).1

theorem schemaOf_fresh (d : Source) (schema : Value) :
    d.fresh.schemaOf schema = d.resolveSchema schema :=
  ((Session.On.fresh d).resolveSchema schema).1

theorem columnsOf_fresh (d : Source) (table schema : Value) :
    d.fresh.columnsOf table schema = d.columns table schema := by
  rcases (Warm.fresh d).columnsOf table schema with h | ⟨_, _, _, _, _, hmem, _⟩
  · exact h
  · exact absurd hmem (by simp [Source.fresh])

/-! ### What a source lists columns for -/

theorem isSchema_of_schemaValue {e : Engine} {a : String} {v : Value}
    (h : Build.schemaValue e (.text a) = .ok v) : Identifier.IsSchema a := by
  by_cases hempty : a = ""
  · exact Or.inl hempty
  · right
    rcases hname : Identifier.require (.text a) "schema" with f | b
    · rw [Build.schemaValue] at h
      simp only [hname, Value.isTruthy] at h
      exact absurd h (by simp [hempty, bind, Except.bind])
    · rw [Value.text.inj (Identifier.isName_of_require hname).1]
      exact (Identifier.isName_of_require hname).2

theorem schemaValue_of_isSchema {e : Engine} {a : String} (h : Identifier.IsSchema a) :
    Build.schemaValue e (.text a) = .ok (.text (e.fold a)) := by
  by_cases hempty : a = ""
  · have hfold : e.fold "" = "" := by cases e <;> rfl
    rw [hempty, hfold]
    rfl
  · have hname : Identifier.isName a.toList = true := h.resolve_left hempty
    rw [Build.schemaValue, Identifier.require_of_isName hname]
    have htruthy : (Value.text a).isTruthy = true := by simpa [Value.isTruthy] using hempty
    simp only [htruthy]
    rfl

/-- A query on a table is built for names only. Engines without schemas do not look at
    the schema. -/
theorem names_of_tableLookup {e : Engine} {op : Operation} {t : Template} {a x : String}
    {q : Query} (h : Build.tableLookup e op t (.text x) (.text a) = .ok (some q)) :
    Identifier.isName x.toList = true ∧
      (e.supports .schemas = true → Identifier.IsSchema a) := by
  obtain ⟨name, htable, h⟩ := ok_of_bind h
  have hname := Identifier.isName_of_require htable
  rw [← Value.text.inj hname.1] at hname
  refine ⟨hname.2, fun hschemas => ?_⟩
  rw [hschemas] at h
  split at h
  · exact absurd (Except.ok.inj h) (by simp)
  · obtain ⟨v, hschema, -⟩ := ok_of_bind h
    exact isSchema_of_schemaValue hschema

theorem names_of_load {d : Source} {a x : String} {columns : List Value}
    (h : d.load a (.text x) = .ok columns) : Identifier.isName x.toList = true ∧
      (d.engine.supports .schemas = true → Identifier.IsSchema a) := by
  obtain ⟨built, hbuild, h⟩ := ok_of_bind h
  cases built with
  | none => exact absurd h (by simp [refuse])
  | some q => exact names_of_tableLookup hbuild

/-- What a schema resolves to is a schema, where the source is not asked for it. -/
theorem isSchema_of_resolveSchema {d : Source} {schema : Value} {a : String}
    (h : d.resolveSchema schema = .ok a) (hschemas : d.engine.supports .schemas = false) :
    Identifier.IsSchema a := by
  rw [Source.resolveSchema, hschemas] at h
  obtain ⟨r, hresolve, h⟩ := ok_of_bind h
  rw [Bool.and_false] at h
  rw [← Except.ok.inj h]
  exact Identifier.isSchema_of_resolveSchema hresolve

/-- An engine that folds names has one list for all spellings of a table. -/
theorem load_eq_of_folded {d : Source} {a x b y : String}
    (hfolds : d.engine.rules.foldsNames = true) (ha : Identifier.IsSchema a)
    (hb : Identifier.IsSchema b) (hx : Identifier.isName x.toList = true)
    (hy : Identifier.isName y.toList = true)
    (hschema : Text.lowercase a = Text.lowercase b) (htable : Text.lowercase x = Text.lowercase y) :
    d.load a (.text x) = d.load b (.text y) := by
  have hschemas : d.engine.supports .schemas = true := by
    revert hfolds
    cases d.engine <;> decide
  have hfold (s t : String) (hs : ∀ c ∈ s.toList, Identifier.isNameChar c = true)
      (ht : ∀ c ∈ t.toList, Identifier.isNameChar c = true)
      (h : Text.lowercase s = Text.lowercase t) : d.engine.fold s = d.engine.fold t := by
    rw [Engine.fold, Engine.fold, if_pos hfolds, if_pos hfolds]
    exact uppercase_eq_of_lowercase_eq hs ht h
  -- Both spellings are folded to the same names, so one query is built for both.
  have hbuild : Build.getTableSchemaFull d.engine (.text x) (.text a) =
      Build.getTableSchemaFull d.engine (.text y) (.text b) := by
    rw [Build.getTableSchemaFull, Build.getTableSchemaFull, Build.tableLookup, Build.tableLookup,
      Identifier.require_of_isName hx, Identifier.require_of_isName hy, schemaValue_of_isSchema ha,
      schemaValue_of_isSchema hb, hschemas]
    simp only [bind, Except.bind, Bool.not_true, Bool.false_eq_true, if_false]
    rw [hfold a b ha.isNameChar hb.isNameChar hschema,
      hfold x y (Identifier.isNameChar_of_isName hx) (Identifier.isNameChar_of_isName hy) htable]
  rw [Source.load, Source.load, hbuild]

/-! ### Answers of warm sessions -/

/-- A call that named another table with the same key. The names differ in letter case
    only, and an engine that folds names tells them apart only when one is no name. -/
structure Confused (d : Source) (call : TableCall) (table schema : Value) (a x b y : String) :
    Prop where
  callSchema : d.fresh.schemaOf call.schema = .ok a
  callTable : call.table = .text x
  schema : d.fresh.schemaOf schema = .ok b
  table : table = .text y
  schemaCase : Text.lowercase a = Text.lowercase b
  tableCase : Text.lowercase x = Text.lowercase y
  differs : a ≠ b ∨ x ≠ y
  unfolded : d.engine.rules.foldsNames = true →
    ¬(Identifier.IsSchema b ∧ Identifier.isName y.toList = true)

/-- What is cached under the key of a table was loaded for a call that named this table, up to
    letter case. The names of the call were checked when it was loaded, so the key falls
    apart. -/
theorem exists_call_of_loaded {d : Source} {calls : List TableCall} {b y k : String}
    {columns : List Value} (hkey : ColumnCache.key d.engine.driverName b y = k)
    (h : Loaded d calls (k, columns)) :
    ∃ call ∈ calls, ∃ a x, d.resolveSchema call.schema = .ok a ∧ call.table = .text x ∧
      d.load a (.text x) = .ok columns ∧
      (Identifier.IsSchema a ∧ Identifier.isName x.toList = true) ∧
      Text.lowercase a = Text.lowercase b ∧ Text.lowercase x = Text.lowercase y := by
  obtain ⟨call, hcall, a, x, ha, hx, hentry, hload⟩ := h
  have hnames := names_of_load hload
  have hschema : Identifier.IsSchema a := by
    by_cases hschemas : d.engine.supports .schemas = true
    · exact hnames.2 hschemas
    · exact isSchema_of_resolveSchema ha (by simpa using hschemas)
  exact ⟨call, hcall, a, x, ha, hx, hload, ⟨hschema, hnames.1⟩,
    ColumnCache.key_inj hschema hnames.1 (hentry.trans hkey.symm)⟩

/-- A warm session answers as a fresh one does, unless an earlier call named another
    table with the same key: then it may answer as a fresh one does to that call. -/
theorem columnsOf_afterCalls (d : Source) (calls : List TableCall) (table schema : Value) :
    (d.fresh.afterCalls calls).columnsOf table schema = d.fresh.columnsOf table schema ∨
      ∃ call ∈ calls, (∃ a x b y, Confused d call table schema a x b y) ∧
        (d.fresh.afterCalls calls).columnsOf table schema =
          d.fresh.columnsOf call.table call.schema := by
  rcases (warm_afterCalls d calls).columnsOf table schema with
    h | ⟨b, k, columns, hb, hkey, hmem, hanswer⟩
  · left
    rw [h, columnsOf_fresh]
  · rcases text_of_columnKey hkey with ⟨y, htable, hy⟩
    obtain ⟨call, hcall, a, x, ha, hx, hload, hnames, hcase⟩ :=
      exists_call_of_loaded hy ((warm_afterCalls d calls).entries _ hmem)
    have hfresh : d.fresh.columnsOf table schema = d.load b (.text y) := by
      rw [columnsOf_fresh, Source.columns, hb, htable]
      rfl
    have hcached : d.fresh.columnsOf call.table call.schema = .ok columns := by
      rw [columnsOf_fresh, Source.columns, ha, hx, ← hload]
      rfl
    by_cases hsame : a = b ∧ x = y
    · left
      rw [hanswer, hfresh, ← hload, hsame.1, hsame.2]
    · by_cases hfolded : d.engine.rules.foldsNames = true ∧ Identifier.IsSchema b ∧
          Identifier.isName y.toList = true
      · left
        rw [hanswer, hfresh, ← hload]
        exact load_eq_of_folded hfolded.1 hnames.1 hfolded.2.1 hnames.2 hfolded.2.2 hcase.1 hcase.2
      · refine Or.inr ⟨call, hcall, ⟨a, x, b, y, ?_⟩, by rw [hanswer, hcached]⟩
        exact {
          callSchema := by rw [schemaOf_fresh, ha]
          callTable := hx
          schema := by rw [schemaOf_fresh, hb]
          table := htable
          schemaCase := hcase.1
          tableCase := hcase.2
          differs := by
            by_cases hab : a = b
            · exact Or.inr fun hxy => hsame ⟨hab, hxy⟩
            · exact Or.inl hab
          unfolded := fun hfolds hnamed => hfolded ⟨hfolds, hnamed⟩ }

/-- A source with a table `Orders` and another one `orders`. -/
def twoOrders : Source where
  engine := .postgres
  connection := "main"
  override := ""
  limits := {}
  reply _ args :=
    let name := match args with
      | [_, .text "Orders"] => "id"
      | _ => "name"
    { result := {
        columns := ["column_name"]
        rows := [[.text name, .null, .null, .null, .null, .null, .null, .null]] } }

/-- The table that was asked for first answers for both. -/
theorem twoOrders_confused :
    (twoOrders.fresh.afterCalls [.columns (.text "Orders") (.text "")]).columnsOf
        (.text "orders") (.text "") ≠ twoOrders.fresh.columnsOf (.text "orders") (.text "") := by
  have hwarm : (twoOrders.fresh.afterCalls [.columns (.text "Orders") (.text "")]).columnsOf
      (.text "orders") (.text "") = .ok [.text "id"] := rfl
  have hfresh : twoOrders.fresh.columnsOf (.text "orders") (.text "") = .ok [.text "name"] := rfl
  rw [hwarm, hfresh]
  simp

end SqlCatalog
