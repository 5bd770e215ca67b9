import SqlCatalog.Proofs.Query.SideBySide

/-!
# The Shape of a Query

Two callers who ask for the same thing about different data are given the same text, with
different arguments. What "the same thing" means is said here for every operation: the
parameters that are written into the text have to agree, of some others it counts only
whether they are there, and of the arguments of a procedure only the names count. Everything
else is free. In particular no text that a caller looks for, filters by or passes on is ever
put into a template, so it does not matter what stands in it.

A clause that filters rows is handed in as a text. It has been written from filters before,
from their columns and operators, so clauses of the same tests are the same text whatever
the rows are compared with.

## Main definitions

* `Operation.writtenFrom`, `Operation.toggledBy`: The parameters that a text is written
  from, and those of which only the presence counts.
* `SameClause`: Filter clauses that compare the same columns in the same way.
* `SameShape`: Two callers ask for the same thing.

## Theorems

* `SameClause.eq`: Clauses of the same tests are the same text.
* `SameShape.samePieces`: Builds of the same shape give the same pieces.
* `searchObjects_knownTypes`: A search is restricted by the types that the engine knows.
* `text_of_shape`: Queries of the same shape have the same text.
-/

namespace SqlCatalog

/-! ### What a text is written from -/

namespace Operation

/-- The parameters that are written into the text of a query, each with what stands for it
    when it is absent. Lookups of tables write a name only where they cannot bind it. -/
def writtenFrom (e : Engine) (op : Operation) : List (String × Value) :=
  let window := [("limit", Value.int 100), ("offset", .int 0)]
  let absent := Value.text ""
  match op with
  | .listTables | .listProcedures | .listViews | .listTriggers => window
  | .listFunctions => ("function_type", .text "all") :: window
  | .describeTable | .getColumns | .getTableSchemaFull | .getPrimaryKey | .getIndexes
  | .getForeignKeys => if e.supports .schemas then [] else [("table", absent)]
  | .searchObjects => [("object_types", .null)]
  | .selectRows =>
    [("table", absent), ("schema", absent), ("columns", .list []), ("order_by", absent),
      ("order_direction", .text "ASC"), ("limit", .int 50), ("offset", .int 0)]
  | .countRows => [("table", absent), ("schema", absent)]
  | .callProcedure => [("name", absent), ("schema", absent), ("declared_parameters", .null)]
  | _ => []

/-- The parameters of which the text tells only whether they are there. -/
def toggledBy : Operation → List (String × Value)
  | .listTables | .listProcedures | .listFunctions | .listViews =>
    [("schema", .text ""), ("name_filter", .text "")]
  | .listTriggers =>
    [("schema", .text ""), ("table", .text ""), ("name_filter", .text ""),
      ("include_disabled", .bool true)]
  | .searchObjects => [("search_in_code", .bool false)]
  | _ => []

/-- The names of the arguments that are given for a procedure. -/
def argumentNames (given : Arguments) : List Value :=
  match argumentEntries (given.valueOr "arguments" .null) with
  | .ok entries => entries.map (·.1)
  | .error _ => []

end Operation

/-- Two filters that compare the same column in the same way, with whatever values. -/
structure RowFilter.SameTest (f g : RowFilter) : Prop where
  column : f.column = g.column
  operator : f.operator = g.operator

/-- Two texts of filter clauses that compare the same columns in the same way. -/
inductive SameClause (e : Engine) : Value → Value → Prop
  | same (v : Value) : SameClause e v v
  | filtered {fs gs : List RowFilter} {columns : List Value} {start : Int} {c d : WhereClause}
      (hfilters : List.Forall₂ RowFilter.SameTest fs gs)
      (hf : whereClause e (fs.map .ok) columns start = .ok c)
      (hg : whereClause e (gs.map .ok) columns start = .ok d) :
      SameClause e (.text (e.render c.pieces)) (.text (e.render d.pieces))

/-- Two callers ask for the same thing about whatever data. -/
structure SameShape (e : Engine) (op : Operation) (a b : Arguments) : Prop where
  written : ∀ p ∈ op.writtenFrom e, a.valueOr p.1 p.2 = b.valueOr p.1 p.2
  toggled : ∀ p ∈ op.toggledBy, (a.valueOr p.1 p.2).isTruthy = (b.valueOr p.1 p.2).isTruthy
  clause : op ∈ [.selectRows, .countRows] →
    SameClause e (a.valueOr "where_clause" (.text "")) (b.valueOr "where_clause" (.text ""))
  names : op = .callProcedure → Operation.argumentNames a = Operation.argumentNames b

/-! ### Clauses without their values -/

section Clause

variable {e : Engine} {index : ColumnIndex}

/-- A condition is written from the column and the operator of its filter. Whether it binds
    a value does not depend on the value. -/
theorem condition_congr {f g : RowFilter} (h : f.SameTest g) {i : Int} {c d : Condition}
    (hc : condition e index i f = .ok c) (hd : condition e index i g = .ok d) :
    c.pieces = d.pieces ∧ c.args.length = d.args.length := by
  obtain ⟨column, hcolumn, hc⟩ := ok_of_bind hc
  obtain ⟨column', hcolumn', hd⟩ := ok_of_bind hd
  rw [← h.column, hcolumn] at hcolumn'
  obtain rfl := Except.ok.inj hcolumn'
  rw [← h.operator] at hd
  cases hop : f.operator
  -- A pattern is made from texts only, and the texts of both filters are bound.
  case contains | startsWith | endsWith =>
    rw [hop] at hc hd
    cases hf : f.value with
    | text s =>
        cases hg : g.value with
        | text t =>
            rw [hf] at hc
            rw [hg] at hd
            rw [← Except.ok.inj hc, ← Except.ok.inj hd]
            exact ⟨rfl, rfl⟩
        | _ =>
            rw [hg] at hd
            exact absurd hd (by simp [FilterOperator.sign?, refuse])
    | _ =>
        rw [hf] at hc
        exact absurd hc (by simp [FilterOperator.sign?, refuse])
  all_goals
    rw [hop] at hc hd
    rw [← Except.ok.inj hc, ← Except.ok.inj hd]
    exact ⟨rfl, rfl⟩

/-- Conditions of the same tests have the same pieces, by induction on the filters. -/
theorem conditions_congr {fs gs : List RowFilter} (h : List.Forall₂ RowFilter.SameTest fs gs)
    {start : Int} {cs ds : List Condition}
    (hc : conditions e index start (fs.map .ok) = .ok cs)
    (hd : conditions e index start (gs.map .ok) = .ok ds) :
    cs.map (·.pieces) = ds.map (·.pieces) := by
  induction h generalizing start cs ds with
  | nil =>
      rw [← Except.ok.inj hc, ← Except.ok.inj hd]
  | @cons f g fs gs hfg hrest ih =>
      obtain ⟨_, hf, hc⟩ := ok_of_bind hc
      obtain ⟨c, hc₁, hc⟩ := ok_of_bind hc
      obtain ⟨cs, hcs, hc⟩ := ok_of_bind hc
      obtain ⟨_, hg, hd⟩ := ok_of_bind hd
      obtain ⟨d, hd₁, hd⟩ := ok_of_bind hd
      obtain ⟨ds, hds, hd⟩ := ok_of_bind hd
      rw [← Except.ok.inj hf] at hc₁
      rw [← Except.ok.inj hg] at hd₁
      obtain ⟨hpieces, hlength⟩ := condition_congr hfg hc₁ hd₁
      -- As many values are bound, so the markers of the rest have the same numbers.
      rw [hlength] at hcs
      rw [← Except.ok.inj hc, ← Except.ok.inj hd, List.map_cons, List.map_cons, hpieces,
        ih hcs hds]

/-- A conjunction is put together from the pieces of its conditions. -/
theorem conjunction_congr {cs ds : List Condition}
    (h : cs.map (·.pieces) = ds.map (·.pieces)) : conjunction cs = conjunction ds := by
  induction cs generalizing ds with
  | nil =>
      obtain rfl := List.map_eq_nil_iff.mp h.symm
      rfl
  | cons c cs ih =>
      cases ds with
      | nil => exact absurd h (by simp)
      | cons d ds =>
          simp only [List.map_cons, List.cons.injEq] at h
          have hempty : cs.isEmpty = ds.isEmpty := by
            simpa using congrArg List.isEmpty h.2
          rw [conjunction_cons, conjunction_cons, joined, joined, h.1, ih h.2, hempty]

/-- Clauses of the same tests are the same text. -/
theorem SameClause.eq {v w : Value} (h : SameClause e v w) : v = w := by
  cases h with
  | same => rfl
  | @filtered fs gs columns start c d hfilters hf hg =>
      obtain ⟨index, hindex, hf⟩ := ok_of_bind hf
      obtain ⟨cs, hcs, hf⟩ := ok_of_bind hf
      obtain ⟨_, hindex', hg⟩ := ok_of_bind hg
      obtain ⟨ds, hds, hg⟩ := ok_of_bind hg
      rw [hindex] at hindex'
      rw [← Except.ok.inj hindex'] at hds
      have hmap := conditions_congr hfilters hcs hds
      have hempty : cs.isEmpty = ds.isEmpty := by
        simpa using congrArg List.isEmpty hmap
      rw [← Except.ok.inj hf, ← Except.ok.inj hg]
      dsimp only
      rw [conjunction_congr hmap, hempty]

end Clause

/-! ### Every operation -/

namespace SameShape

variable {e : Engine} {op : Operation} {a b : Arguments}

theorem argumentEntries_eq (h : SameShape e .callProcedure a b)
    {entries entries' : List (Value × Value)}
    (ha : Operation.argumentEntries (a.valueOr "arguments" .null) = .ok entries)
    (hb : Operation.argumentEntries (b.valueOr "arguments" .null) = .ok entries') :
    entries.map (·.1) = entries'.map (·.1) := by
  have hnames := h.names rfl
  rwa [Operation.argumentNames, Operation.argumentNames, ha, hb] at hnames

/-- Listings of the same shape have the same window. -/
theorem windowOf_eq (h : SameShape e op a b)
    (hop : op ∈ [.listTables, .listProcedures, .listFunctions, .listViews, .listTriggers]) :
    Operation.windowOf a {} = Operation.windowOf b {} := by
  have hlimit : ("limit", Value.int 100) ∈ op.writtenFrom e := by
    cases op <;> simp [Operation.writtenFrom] at hop ⊢
  have hoffset : ("offset", Value.int 0) ∈ op.writtenFrom e := by
    cases op <;> simp [Operation.writtenFrom] at hop ⊢
  rw [Operation.windowOf, Operation.windowOf, h.written _ hlimit, h.written _ hoffset]

/-- Listings of the same shape are the same, whatever schema and text they are restricted
    to. -/
theorem listing (h : SameShape e op a b)
    (hop : op ∈ [.listTables, .listProcedures, .listFunctions, .listViews])
    (base bySchema byName : Template) (order : String) :
    Build.SamePieces
      (do
        let schema ← Build.schemaValue e (a.valueOr "schema" (.text ""))
        let pattern ← Build.containsPattern e (a.valueOr "name_filter" (.text ""))
        Build.listing e op base [⟨bySchema, schema⟩, ⟨byName, pattern⟩] [] order
          (Operation.windowOf a {}))
      (do
        let schema ← Build.schemaValue e (b.valueOr "schema" (.text ""))
        let pattern ← Build.containsPattern e (b.valueOr "name_filter" (.text ""))
        Build.listing e op base [⟨bySchema, schema⟩, ⟨byName, pattern⟩] [] order
          (Operation.windowOf b {})) := by
  have hschema : ("schema", Value.text "") ∈ op.toggledBy := by
    cases op <;> simp [Operation.toggledBy] at hop ⊢
  have hpattern : ("name_filter", Value.text "") ∈ op.toggledBy := by
    cases op <;> simp [Operation.toggledBy] at hop ⊢
  rw [h.windowOf_eq (by cases op <;> simp at hop ⊢)]
  exact .namedListing base [] bySchema byName order _ [] [] (h.toggled _ hschema) .nil
    (h.toggled _ hpattern)

/-- Builds of the same shape give the same pieces, one operation at a time. -/
theorem samePieces (h : SameShape e op a b) :
    Build.SamePieces (Operation.build e op a) (Operation.build e op b) := by
  unfold Operation.build
  refine .bind fun given given' ha hb => ?_
  rw [eq_of_bind ha, eq_of_bind hb]
  have hwritten := h.written
  have htoggled := h.toggled
  cases op with
  | listTables => exact h.listing (by simp) _ _ _ _
  | listProcedures | listViews => exact .supported (h.listing (by simp) _ _ _ _)
  | listFunctions =>
      simp only [Operation.writtenFrom, List.forall_mem_cons] at hwritten
      obtain ⟨hkind, -⟩ := hwritten
      dsimp only
      unfold Build.listFunctions
      rw [hkind]
      refine .bind fun kind kind' hk hk' => ?_
      rw [hk] at hk'
      rw [Except.ok.inj hk']
      exact .supported (h.listing (by simp) _ _ _ _)
  | listTriggers =>
      simp only [Operation.toggledBy, List.forall_mem_cons] at htoggled
      obtain ⟨hschema, htable, hpattern, hdisabled, -⟩ := htoggled
      dsimp only
      rw [h.windowOf_eq (by simp)]
      exact .listTriggers _ hschema htable hpattern hdisabled
  | describeTable | getColumns | getTableSchemaFull | getPrimaryKey | getIndexes
  | getForeignKeys =>
      -- Where there are no schemas the name of the table is written into the text.
      refine .tableLookup _ _ _ fun hschemas => ?_
      simp only [Operation.writtenFrom, hschemas, Bool.false_eq_true, if_false,
        List.forall_mem_cons] at hwritten
      exact hwritten.1
  | tableExists | getViewDefinition | getTriggerCode => exact .objectLookup _ _ _ _ _ _
  | getProcedureCode | getProcedureParameters | getFunctionCode =>
      exact .supported (.objectLookup _ _ _ _ _ _)
  | databaseVersion | databaseDetails | objectCounts | listSchemas | currentSchema =>
      exact .refl _
  | searchObjects =>
      simp only [Operation.writtenFrom, Operation.toggledBy, List.forall_mem_cons]
        at hwritten htoggled
      dsimp only
      rw [hwritten.1]
      exact .searchObjects _ htoggled.1
  | selectRows =>
      simp only [Operation.writtenFrom, List.forall_mem_cons] at hwritten
      obtain ⟨htable, hschema, hcolumns, horder, hdirection, hlimit, hoffset, -⟩ := hwritten
      -- A clause of the same tests is the same text, so nothing is left to differ.
      dsimp only [Operation.windowOf, Window.ofRows]
      rw [(h.clause (by simp)).eq, htable, hschema, hcolumns, horder, hdirection, hlimit, hoffset]
      exact .refl _
  | countRows =>
      simp only [Operation.writtenFrom, List.forall_mem_cons] at hwritten
      obtain ⟨htable, hschema, -⟩ := hwritten
      dsimp only
      rw [(h.clause (by simp)).eq, htable, hschema]
      exact .refl _
  | callProcedure =>
      simp only [Operation.writtenFrom, List.forall_mem_cons] at hwritten
      obtain ⟨hname, hschema, hdeclared, -⟩ := hwritten
      dsimp only
      rw [hname, hschema, hdeclared]
      refine .supported (.bind fun entries entries' he he' => .bind fun d d' hd hd' => ?_)
      rw [hd] at hd'
      rw [Except.ok.inj hd']
      exact .callProcedure _ _ (h.argumentEntries_eq he he') d'

end SameShape

/-! ### Types that an engine does not know -/

/-- Whether an engine knows a type of objects. -/
def Engine.knowsType (e : Engine) (t : Value) : Bool :=
  (e.rules.search.typeCodes.lookup (Text.lowercase t.plain)).isSome

/-- Types that are not known have no code. -/
theorem typeCodes_filter (e : Engine) (types : List Value) :
    Build.typeCodes e.rules.search.typeCodes (types.filter e.knowsType) =
      Build.typeCodes e.rules.search.typeCodes types := by
  unfold Build.typeCodes
  rw [List.foldl_filter]
  congr
  funext codes t
  unfold Engine.knowsType
  cases e.rules.search.typeCodes.lookup (Text.lowercase t.plain) <;> rfl

/-- A list of types is gone through, an empty one too. -/
theorem itemsOrNone_list (types : List Value) :
    Build.itemsOrNone (.list types) = .ok types := by
  unfold Build.itemsOrNone
  cases types <;> rfl

/-- A search is restricted by the types that the engine knows. -/
theorem searchObjects_knownTypes (e : Engine) (term inCode : Value) (types : List Value) :
    Build.searchObjects e term inCode (.list types) =
      Build.searchObjects e term inCode (.list (types.filter e.knowsType)) := by
  unfold Build.searchObjects
  rw [itemsOrNone_list, itemsOrNone_list]
  dsimp only [Bind.bind, Except.bind]
  rw [typeCodes_filter]

/-- Whether arguments fit a signature is told by their names. -/
theorem bind_cons (s : Signature) (name : String) (v : Value) (given : Arguments) :
    s.bind ((name, v) :: given) =
      if (s.accepts name && given.all fun a => s.accepts a.1)
          && s.required.all fun n => name == n || given.any (·.1 == n) then
        .ok ((name, v) :: given)
      else .error (.misuse .wrongKind) :=
  rfl

/-- The text of a query is told by its shape: two callers who ask for the same thing are
    given the same text, whatever they look for, filter by and pass on. And a search asks
    for the types that the engine knows, so no other name of a type is in its text. -/
theorem text_of_shape (e : Engine) :
    (∀ (op : Operation) (a b : Arguments) (p q : Option Query), SameShape e op a b →
      Operation.build e op a = .ok p → Operation.build e op b = .ok q →
      p.map (·.sql e) = q.map (·.sql e)) ∧
    ∀ (types : List Value) (given : Arguments),
      Operation.build e .searchObjects (("object_types", .list types) :: given) =
        Operation.build e .searchObjects
          (("object_types", .list (types.filter e.knowsType)) :: given) := by
  refine ⟨fun op a b p q hshape hp hq => ?_, fun types given => ?_⟩
  · have hpieces := hshape.samePieces p q hp hq
    have hrender := congrArg (Option.map e.render) hpieces
    rwa [Option.map_map, Option.map_map] at hrender
  · unfold Operation.build
    rw [bind_cons, bind_cons]
    split
    · exact searchObjects_knownTypes e _ _ types
    · rfl

/-- A listing of the tables of a schema whose names hold a text. -/
def tablesLike (schema text : String) : Arguments :=
  [("schema", .text schema), ("name_filter", .text text)]

/-- A filter for the rows with a name. -/
def rowsNamed (name : String) : List RowFilter := [⟨.text "name", .eq, .text name⟩]

/-- A count of the rows that a clause leaves. -/
def countOf (e : Engine) (clause : WhereClause) : Arguments :=
  [("table", .text "people"), ("where_clause", .text (e.render clause.pieces))]

/-- Quotes, braces, percent signs and markers in what is looked for and filtered by are not
    read again when the text is written. -/
theorem text_of_odd_values :
    (∃ p q,
      Operation.build .postgres .listTables (tablesLike "public" "'; DROP TABLE t --") = .ok p ∧
      Operation.build .postgres .listTables (tablesLike "sales" "$3 % \x7b0\x7d") = .ok q ∧
      p.map (·.sql .postgres) = q.map (·.sql .postgres)) ∧
    ∃ c d p q, whereClause .oracle ((rowsNamed "O'Brien").map .ok) [.text "name"] 1 = .ok c ∧
      whereClause .oracle ((rowsNamed ":2 \x7b0\x7d").map .ok) [.text "name"] 1 = .ok d ∧
      Operation.build .oracle .countRows (countOf .oracle c) = .ok p ∧
      Operation.build .oracle .countRows (countOf .oracle d) = .ok q ∧
      p.map (·.sql .oracle) = q.map (·.sql .oracle) := by
  constructor
  · obtain ⟨p, hp⟩ : ∃ p, Operation.build .postgres .listTables
        (tablesLike "public" "'; DROP TABLE t --") = .ok p := ⟨_, rfl⟩
    obtain ⟨q, hq⟩ : ∃ q, Operation.build .postgres .listTables
        (tablesLike "sales" "$3 % \x7b0\x7d") = .ok q := ⟨_, rfl⟩
    refine ⟨p, q, hp, hq, (text_of_shape .postgres).1 .listTables _ _ p q ⟨?_, ?_, ?_, ?_⟩ hp hq⟩
    · simp [Operation.writtenFrom, tablesLike, Arguments.valueOr, List.lookup_cons]
    · simp [Operation.toggledBy, tablesLike, Arguments.valueOr, List.lookup_cons, Value.isTruthy]
    · simp
    · simp
  · obtain ⟨c, hc⟩ : ∃ c,
        whereClause .oracle ((rowsNamed "O'Brien").map .ok) [.text "name"] 1 = .ok c :=
      ⟨_, rfl⟩
    obtain ⟨d, hd⟩ : ∃ d,
        whereClause .oracle ((rowsNamed ":2 \x7b0\x7d").map .ok) [.text "name"] 1 = .ok d :=
      ⟨_, rfl⟩
    obtain ⟨p, hp⟩ : ∃ p, Operation.build .oracle .countRows (countOf .oracle c) = .ok p :=
      ⟨_, rfl⟩
    obtain ⟨q, hq⟩ : ∃ q, Operation.build .oracle .countRows (countOf .oracle d) = .ok q :=
      ⟨_, rfl⟩
    have hfilters : List.Forall₂ RowFilter.SameTest (rowsNamed "O'Brien")
        (rowsNamed ":2 \x7b0\x7d") :=
      .cons ⟨rfl, rfl⟩ .nil
    refine ⟨c, d, p, q, hc, hd, hp, hq,
      (text_of_shape .oracle).1 .countRows _ _ p q ⟨?_, ?_, ?_, ?_⟩ hp hq⟩
    · simp [Operation.writtenFrom, countOf, Arguments.valueOr, List.lookup_cons]
    · simp [Operation.toggledBy]
    · exact fun _ => .filtered hfilters hc hd
    · simp

end SqlCatalog
