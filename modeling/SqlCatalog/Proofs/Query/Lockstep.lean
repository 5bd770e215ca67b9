import SqlCatalog.Proofs.Query.Markers
import SqlCatalog.Query.Named

/-!
# Markers and Arguments in Lockstep

What it means that the markers of a statement and its arguments agree. Every argument has
an origin: a parameter of the caller, or a filter on the rows of a table. There are as
many markers as the arguments need, in their order, and every marker stands in the
comparison that is made for the origin of its argument.

The comparison is read off the text: right before a marker there is a column, an operator,
and where the engine joins texts the first half of a joined pattern. Which columns speak of
a schema, of the name of an object or of its source is a matter of the engine's catalogue,
so it is written down here for each engine and not read off the engine's rules.

## Main definitions

* `Lockstep`: The markers of a text agree with arguments from given origins.
* `Origin`: The parameters that arguments of a catalogue query come from.
* `Origin.value`: What is bound for a parameter.
* `Origin.Compared`: A text ends in a comparison with a column that the parameter is about.

## Theorems

* `Lockstep.of_placed`: Pieces whose markers are placed are in lockstep.
-/

namespace SqlCatalog

/-- The markers of a text agree with arguments. Every argument is what is bound for its
    origin. Where markers have no numbers there is one for each argument; where they have,
    their numbers are those of the arguments, and they first appear in ascending order.
    Every marker stands at a place of the origin of its argument. -/
structure Lockstep {α : Type} (e : Engine) (sql : String) (args : List Value)
    (origins : List α) (value : α → Outcome Value) (place : α → List Char → Prop) : Prop where
  bound : origins.map value = args.map .ok
  count : e.rules.markers = .question → (e.markersIn sql).length = args.length
  order : e.rules.markers ≠ .question →
    ((e.markersIn sql).map (·.index)).eraseDups = List.range' 1 args.length
  place : ∀ m ∈ e.markersIn sql, ∃ s ∈ origins[m.index - 1]?, place s m.before

/-- What a marker has to fit when arguments come from these origins. -/
def PlaceOf {α : Type} (origins : List α) (place : α → List Char → Prop) (index : Nat)
    (before : List Char) : Prop :=
  ∃ s ∈ origins[index - 1]?, place s before

theorem eraseDups_range' (start n : Nat) :
    (List.range' start n).eraseDups = List.range' start n := by
  induction n generalizing start with
  | zero => rfl
  | succ n ih =>
      -- The first number does not come again, so nothing is dropped.
      have hlater : (List.range' (start + 1) n).filter (fun b => !b == start)
          = List.range' (start + 1) n := by
        rw [List.filter_eq_self]
        intro b hb
        have hstart := (List.mem_range'_1.mp hb).1
        have hne : b ≠ start := by omega
        simp [hne]
      rw [List.range'_succ, List.eraseDups_cons, hlater, ih]

namespace Lockstep

variable {α : Type} {e : Engine} {ps : List Piece} {args : List Value} {origins : List α}
  {value : α → Outcome Value} {place : α → List Char → Prop}

/-- Pieces whose markers are placed are in lockstep with the arguments. -/
theorem of_indices {indices : List Nat} (hbound : origins.map value = args.map .ok)
    (hplaced : Placed e (PlaceOf origins place) 1 ps indices)
    (hcount : e.rules.markers = .question → indices.length = args.length)
    (horder : e.rules.markers ≠ .question → indices.eraseDups = List.range' 1 args.length) :
    Lockstep e (e.render ps) args origins value place := by
  have hmarkers := Engine.markersIn_render hplaced.written
  refine ⟨hbound, fun hq => ?_, fun hq => ?_, fun m hm => ?_⟩
  · rw [hmarkers, ← hcount hq, ← hplaced.indices, List.length_map]
  · rw [hmarkers, hplaced.indices]
    exact horder hq
  · rw [hmarkers] at hm
    exact hplaced.fits m hm

/-- So it is when every argument has one marker. -/
theorem of_placed (hbound : origins.map value = args.map .ok)
    (hplaced : Placed e (PlaceOf origins place) 1 ps (List.range' 1 args.length)) :
    Lockstep e (e.render ps) args origins value place :=
  of_indices hbound hplaced (fun _ => List.length_range') (fun _ => eraseDups_range' 1 _)

end Lockstep

/-- The operators that compare a column with an argument. Where the argument is a part of
    a pattern, the first half of the pattern belongs to the operator. -/
def comparisons : List String :=
  [" = ", " LIKE ", " ILIKE ", " LIKE '%' || ", " LIKE '%' + ", " LIKE CONCAT('%', "]

/-- A text ends in a comparison with a column. The column stands behind a blank, a dot or
    a bracket, so it is not the end of a longer name. -/
def Compares (column : String) (before : List Char) : Prop :=
  ∃ lead ∈ [' ', '.', '('], ∃ sign ∈ comparisons,
    lead :: column.toList ++ sign.toList <:+ before

/-- A comparison at the end of a text stands at the end of a longer text too. -/
theorem Compares.of_suffix {column : String} {text before : List Char}
    (h : Compares column text) (hends : text <:+ before) : Compares column before := by
  obtain ⟨lead, hlead, sign, hsign, hcompares⟩ := h
  exact ⟨lead, hlead, sign, hsign, hcompares.trans hends⟩

/-- The kinds of objects in a catalogue. -/
inductive ObjectKind where
  | table
  | procedure
  | function
  | view
  | trigger

/-- The kind of object that an operation lists or looks up. -/
def Operation.kind? : Operation → Option ObjectKind
  | .listTables | .describeTable | .tableExists | .getColumns | .getTableSchemaFull
  | .getPrimaryKey | .getIndexes | .getForeignKeys => some .table
  | .listProcedures | .getProcedureCode | .getProcedureParameters => some .procedure
  | .listFunctions | .getFunctionCode => some .function
  | .listViews | .getViewDefinition => some .view
  | .listTriggers | .getTriggerCode => some .trigger
  | _ => none

namespace Engine

/-- The columns of an engine's catalogue that name a schema. -/
def schemaColumns : Engine → List String
  | .sqlServer => ["TABLE_SCHEMA", "s.name"]
  | .postgres => ["table_schema", "routine_schema", "n.nspname"]
  | .mysql => ["TABLE_SCHEMA", "ROUTINE_SCHEMA", "SPECIFIC_SCHEMA", "TRIGGER_SCHEMA"]
  | .oracle => ["owner"]
  | .sqlite => []

/-- The columns of an engine's catalogue that name an object of a kind. -/
def nameColumns : Engine → ObjectKind → List String
  | .sqlServer, .table => ["TABLE_NAME", "t.name"]
  | .sqlServer, .procedure | .sqlServer, .function => ["o.name"]
  | .sqlServer, .view => ["v.name"]
  | .sqlServer, .trigger => ["t.name"]
  | .postgres, .table => ["table_name", "t.relname"]
  | .postgres, .procedure => ["routine_name", "p.proname"]
  | .postgres, .function => ["p.proname"]
  | .postgres, .view => ["table_name"]
  | .postgres, .trigger => ["t.tgname"]
  | .mysql, .table | .mysql, .view => ["TABLE_NAME"]
  | .mysql, .procedure => ["ROUTINE_NAME", "SPECIFIC_NAME"]
  | .mysql, .function => ["ROUTINE_NAME"]
  | .mysql, .trigger => ["TRIGGER_NAME"]
  | .oracle, .table => ["table_name"]
  | .oracle, .procedure | .oracle, .function => ["object_name", "name"]
  | .oracle, .view => ["view_name"]
  | .oracle, .trigger => ["trigger_name"]
  | .sqlite, _ => ["name"]

/-- The columns of an engine's catalogue that name the table of a trigger. -/
def triggerTableColumns : Engine → List String
  | .sqlServer => ["OBJECT_NAME(tr.parent_id)"]
  | .postgres => ["c.relname"]
  | .mysql => ["EVENT_OBJECT_TABLE"]
  | .oracle => ["table_name"]
  | .sqlite => ["tbl_name"]

/-- The columns that a search looks into: names of objects, and their sources. -/
def searchColumns : Engine → List String
  | .sqlServer => ["o.name", "m.definition"]
  | .postgres => ["table_name", "view_definition"]
  | .mysql => ["TABLE_NAME"]
  | .oracle => ["object_name"]
  | .sqlite => ["name", "sql"]

end Engine

/-- The parameters that arguments of a catalogue query come from: the schema, the name of
    an object, a part of the name, a table, or the term of a search. -/
inductive Origin where
  | schema
  | name
  | pattern
  | table
  | term
deriving DecidableEq

namespace Origin

/-- The name of the parameter. -/
def parameter : Origin → String
  | .schema => "schema"
  | .name => "name"
  | .pattern => "name_filter"
  | .table => "table"
  | .term => "search_term"

/-- What is bound for a parameter: the name of a schema or nothing, the pattern of a part
    of a name, or the text itself as the catalogue spells it. -/
def value (e : Engine) (given : Arguments) (s : Origin) : Outcome Value :=
  let v := given.valueOr s.parameter (.text "")
  match s with
  | .schema => Build.schemaValue e v
  | .pattern => Build.containsPattern e v
  | .name | .table | .term => e.foldValue v

/-- The columns that an operation compares with the parameter. -/
def columns (e : Engine) (op : Operation) : Origin → List String
  | .schema => e.schemaColumns
  | .name | .pattern => (op.kind?.map e.nameColumns).getD []
  | .table => if op = .listTriggers then e.triggerTableColumns else e.nameColumns .table
  | .term => e.searchColumns

/-- A text ends in a comparison with a column that the parameter is about. -/
def Compared (e : Engine) (op : Operation) (s : Origin) (before : List Char) : Prop :=
  ∃ column ∈ s.columns e op, Compares column before

end Origin

theorem looksBack_placeOf {α : Type} {place : α → List Char → Prop} (origins : List α)
    (h : ∀ s more before, place s before → place s (more ++ before)) :
    LooksBack (PlaceOf origins place) := by
  intro index more before ⟨s, hs, hplace⟩
  exact ⟨s, hs, h s more before hplace⟩

/-- What an argument is compared with depends on the end of the text before it only. -/
theorem looksBack_compared (e : Engine) (op : Operation) (origins : List Origin) :
    LooksBack (PlaceOf origins (Origin.Compared e op)) :=
  looksBack_placeOf origins fun _ _ _ ⟨column, hcolumn, hcompares⟩ =>
    ⟨column, hcolumn, hcompares.of_suffix (List.suffix_append _ _)⟩

end SqlCatalog
