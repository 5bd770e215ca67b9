import SqlCatalog.Catalog.Decode
import SqlCatalog.Proofs.Catalog.Cells
import SqlCatalog.Proofs.Catalog.Grouping

/-!
# Indexes from Their Rows

An information schema has a row for each column of an index, and the rows of several indexes
may be mixed. Decoding puts them together: every index comes out once, where its first row
stood, with the columns of its own rows. A column that a join repeats is kept once, where it
first stood, and a row without a column, as an index on an expression has it, adds none. What
else a row says is taken from the first row only.

SQLite answers with a row for each index, without columns. Should a name come twice, the index
keeps its place and is described by the later row.

## Main definitions

* `IndexPart`, `IndexPart.InRow`: What a row says about an index, and the rows that say it.
* `IndexInfo.Gathers`: A record holds what the rows of its index say.
* `PragmaIndexRow`: The rows that describe a whole index.

## Theorems

* `IndexPart.foldl_extend`: The columns of an index, each once.
* `IndexPart.gathers_of_gather`: The rows of one index make the record that gathers them.
* `gather_replace`: The last of several descriptions is the one that stays.
* `indexes_gathered`: Every index is decoded from its own rows and from all of them.
-/

namespace SqlCatalog

/-! ### Rows of columns -/

/-- What a row says about an index: one of its columns, if it has one, and what kind of index
    it is. -/
structure IndexPart where
  name : String
  column : Option String
  indexType : Value
  isUnique : Bool

namespace IndexPart

/-- The rows of indexes in an information schema. The type may be missing, and an index is unique
    when its row says so. -/
inductive InRow : Row → IndexPart → Prop
  | column (name column : String) {kind unique indexType : Value} {isUnique : Bool}
      (htype : Catalog.Recorded kind indexType)
      (hunique : isUnique = true ↔ Catalog.Affirms unique) (more : List Value) :
      InRow (.text name :: kind :: unique :: .text column :: more)
        ⟨name, some column, indexType, isUnique⟩
  | expression (name : String) {kind unique indexType : Value} {isUnique : Bool}
      (htype : Catalog.Recorded kind indexType)
      (hunique : isUnique = true ↔ Catalog.Affirms unique) (more : List Value) :
      InRow (.text name :: kind :: unique :: .null :: more) ⟨name, none, indexType, isUnique⟩

/-- The columns that rows name. A column without a name is none. -/
def columnNames (parts : List IndexPart) : List String :=
  (parts.filterMap (·.column)).filter (· ≠ "")

/-- The record that an index has before its columns. -/
def fresh (p : IndexPart) : IndexInfo :=
  { name := .text p.name, indexType := p.indexType, isUnique := p.isUnique }

/-- The record with the column of one more row. -/
def extend (p : IndexPart) (i : IndexInfo) : IndexInfo :=
  Catalog.addColumn (.ofOption (p.column.map .text)) i

end IndexPart

/-- The record of an index holds what the rows of the index say: its name, the columns that the
    rows name, each where it first stands, and what the first row says of its kind. -/
structure IndexInfo.Gathers (name : String) (parts : List IndexPart) (i : IndexInfo) : Prop where
  name_eq : i.name = .text name
  columns_eq : i.columns = (IndexPart.columnNames parts).eraseDups.map .text
  first_eq : ∃ first ∈ parts.head?, i.indexType = first.indexType ∧ i.isUnique = first.isUnique
  isPrimary_eq : i.isPrimary = false

namespace IndexPart

/-- A row without a column, or with an empty one, leaves the record. -/
theorem extend_of_unnamed {p : IndexPart} (h : columnNames [p] = []) (i : IndexInfo) :
    p.extend i = i := by
  obtain ⟨name, column, indexType, isUnique⟩ := p
  rcases column with _ | c
  · rfl
  · by_cases hempty : c = ""
    · rw [hempty]
      rfl
    · exact absurd h (by simp [columnNames, hempty])

/-- A row with a column adds it unless it is there. -/
theorem extend_of_named {p : IndexPart} {c : String} (h : columnNames [p] = [c]) (i : IndexInfo)
    {names : List String} (hi : i.columns = names.map .text) :
    p.extend i = { i with columns := (if c ∈ names then names else names ++ [c]).map .text } := by
  obtain ⟨name, column, indexType, isUnique⟩ := p
  rcases column with _ | d
  · exact absurd h (by simp [columnNames])
  · have hempty : d ≠ "" := by
      rintro rfl
      exact absurd h (by simp [columnNames])
    obtain rfl : d = c := by simpa [columnNames, hempty] using h
    have hthere : i.columns.any (fun v => v.equal (.text d)) = decide (d ∈ names) := by
      rw [hi, List.any_map, List.any_eq]
      simp [Value.equal]
    rw [extend, Option.map_some, Value.ofOption, Catalog.addColumn, hthere]
    by_cases hmem : d ∈ names
    · rw [if_neg (by simp [hmem]), if_pos hmem, ← hi]
    · rw [if_pos (by simp [hmem, Value.isTruthy, hempty]), if_neg hmem, hi, List.map_append]
      rfl

/-- The columns of an index are those that its rows name, each where it first stands, by
    induction from the end. -/
theorem foldl_extend (parts : List IndexPart) {i : IndexInfo} (hi : i.columns = []) :
    parts.foldl (fun i p => p.extend i) i =
      { i with columns := (columnNames parts).eraseDups.map .text } := by
  induction parts using List.reverseRecOn with
  | nil =>
      rw [columnNames, List.filterMap_nil, List.filter_nil, List.eraseDups_nil, List.map_nil, ← hi]
      rfl
  | append_singleton rest p ih =>
      have hnames : columnNames (rest ++ [p]) = columnNames rest ++ columnNames [p] := by
        rw [columnNames, List.filterMap_append, List.filter_append]
        rfl
      rw [List.foldl_append, ih, hnames]
      rcases hp : columnNames [p] with _ | ⟨c, more⟩
      · rw [List.append_nil]
        exact extend_of_unnamed hp _
      · obtain rfl : more = [] := by
          have hlength : (columnNames [p]).length ≤ 1 :=
            Nat.le_trans (List.length_filter_le _ _) (List.length_filterMap_le _ _)
          rw [hp] at hlength
          exact List.length_eq_zero_iff.mp (by simpa using hlength)
        rw [List.foldl_cons, List.foldl_nil, extend_of_named hp _ rfl, eraseDups_concat]
        simp only [List.mem_eraseDups]

/-- The rows of one index make the record that gathers them. -/
theorem gathers_of_gather {name : String} {parts : List IndexPart} {i : IndexInfo}
    (hname : ∀ p ∈ parts, p.name = name) (h : Groups.gather fresh extend parts = some i) :
    i.Gathers name parts := by
  cases parts with
  | nil => exact absurd h (by simp [Groups.gather])
  | cons first rest =>
      rw [Groups.gather, foldl_extend _ rfl] at h
      obtain rfl := Option.some.inj h
      refine ⟨?_, rfl, ⟨first, rfl, rfl, rfl⟩, rfl⟩
      rw [← hname first List.mem_cons_self]
      rfl

/-- A row changes the table of indexes as the part in it says. -/
theorem step_of_inRow {row : Row} {p : IndexPart} (h : InRow row p) (groups : Groups IndexInfo) :
    (do
        let r ← Catalog.SchemaIndex.ofRow row
        Catalog.addIndexRow groups r : Outcome (Groups IndexInfo)) =
      .ok (groups.update (.text p.name) p.fresh p.extend) := by
  have hread {kind unique indexType : Value} {isUnique : Bool}
      (htype : Catalog.Recorded kind indexType)
      (hunique : isUnique = true ↔ Catalog.Affirms unique) :
      indexType = Catalog.orEmpty kind ∧ isUnique = Catalog.flag unique :=
    ⟨(Catalog.recorded_iff.mp htype).symm,
      Bool.eq_iff_iff.mpr (hunique.trans Catalog.flag_eq_true_iff.symm)⟩
  cases h with
  | column _ _ htype hunique =>
      obtain ⟨rfl, rfl⟩ := hread htype hunique
      rfl
  | expression _ htype hunique =>
      obtain ⟨rfl, rfl⟩ := hread htype hunique
      rfl

end IndexPart

/-- The indexes that rows of an information schema describe are what is collected from the
    parts in them. -/
theorem decodeIndexes_eq {e : Engine} (he : e ≠ .sqlite) {rows : List Row}
    {parts : List IndexPart} (hrows : List.Forall₂ IndexPart.InRow rows parts) :
    Catalog.decodeIndexes e rows =
      .ok (Groups.collect id IndexPart.name IndexPart.fresh IndexPart.extend parts).records := by
  have hsteps := hrows.imp fun _ _ h => IndexPart.step_of_inRow h
  unfold Catalog.decodeIndexes
  rw [if_neg he, foldlM_eq_ok hsteps []]
  rfl

/-! ### Rows of indexes -/

/-- The rows of SQLite for whole indexes: a place in the list, the name, whether the index is
    unique, where it comes from, and whether it leaves rows out. The origin has to be a value
    that a table can be looked up by. -/
inductive PragmaIndexRow : Row → String × IndexInfo → Prop
  | mk (name : String) (origin : Value) (horigin : origin.isKey = true)
      (place unique isPartial : Value) (more : List Value) :
      PragmaIndexRow (place :: .text name :: unique :: origin :: isPartial :: more)
        ⟨name, { name := .text name, indexType := Catalog.indexTypeOf origin,
                 isUnique := unique.isTruthy, isPrimary := origin.equal (.text "pk") }⟩

/-- Of several descriptions the last one stays. -/
theorem gather_replace {ρ α : Type} (record : ρ → α) (rows : List ρ) :
    Groups.gather record (fun r _ => record r) rows = rows.getLast?.map record := by
  induction rows using List.reverseRecOn with
  | nil => rfl
  | append_singleton rest r _ => rw [Groups.gather_concat, List.getLast?_concat, Option.map_some]

/-- A row of SQLite replaces the index of its name. -/
theorem step_of_pragmaIndexRow {row : Row} {described : String × IndexInfo}
    (h : PragmaIndexRow row described) (groups : Groups IndexInfo) :
    (do
        let r ← Catalog.PragmaIndex.ofRow row
        Catalog.addPragmaIndex groups r : Outcome (Groups IndexInfo)) =
      .ok (groups.update (.text described.1) described.2 fun _ => described.2) := by
  cases h with
  | mk name origin horigin =>
      have hkey : Catalog.requireKey origin = .ok () := if_pos horigin
      change (Catalog.requireKey origin >>= fun _ => _) = _
      rw [hkey]
      rfl

/-- The indexes of SQLite are what is collected from the descriptions in its rows. -/
theorem decodeIndexes_sqlite_eq {rows : List Row} {described : List (String × IndexInfo)}
    (hrows : List.Forall₂ PragmaIndexRow rows described) :
    Catalog.decodeIndexes .sqlite rows =
      .ok (Groups.collect id Prod.fst Prod.snd (fun d _ => d.2) described).records := by
  have hsteps := hrows.imp fun _ _ h => step_of_pragmaIndexRow h
  unfold Catalog.decodeIndexes
  rw [if_pos rfl, foldlM_eq_ok hsteps []]
  rfl

/-! ### All indexes -/

/-- The indexes of a table are decoded from their rows. In an information schema there is one
    record for every name, in the order in which the names first appear in the rows, and it
    gathers what the rows of its index say. Rows that are the same index by index give the same
    records, however the rows of different indexes are mixed. SQLite has one record for every
    name, in the order in which the names first appear, as the last row of the name describes
    it. -/
theorem indexes_gathered (rows : List Row) :
    (∀ e ≠ Engine.sqlite, ∀ parts, List.Forall₂ IndexPart.InRow rows parts →
      ∃ indexes, Catalog.decodeIndexes e rows = .ok indexes ∧
        List.Forall₂ (fun name i => i.Gathers name (parts.filter (·.name = name)))
          (parts.map (·.name)).eraseDups indexes ∧
        ∀ reordered others, List.Forall₂ IndexPart.InRow reordered others →
          (∀ name, parts.filter (·.name = name) = others.filter (·.name = name)) →
          ∃ same, Catalog.decodeIndexes e reordered = .ok same ∧ indexes.Perm same) ∧
    ∀ described, List.Forall₂ PragmaIndexRow rows described →
      ∃ indexes, Catalog.decodeIndexes .sqlite rows = .ok indexes ∧
        List.Forall₂ (fun name i => (described.filter (·.1 = name)).getLast? = some (name, i))
          (described.map (·.1)).eraseDups indexes := by
  have hlabel (names : List String) : ∀ s ∈ names, ∀ t ∈ names, id s = id t → s = t :=
    fun _ _ _ _ h => h
  refine ⟨fun e he parts hrows => ?_, fun described hrows => ?_⟩
  · refine ⟨_, decodeIndexes_eq he hrows, ?_, fun reordered others hothers hsame => ?_⟩
    · refine (Groups.forall₂_records _ _ (hlabel _)).imp fun name i hi => ?_
      refine IndexPart.gathers_of_gather (fun p hp => ?_) hi
      exact of_decide_eq_true (List.mem_filter.mp hp).2
    · exact ⟨_, decodeIndexes_eq he hothers, Groups.perm_records hsame (hlabel _) (hlabel _)⟩
  · refine ⟨_, decodeIndexes_sqlite_eq hrows, ?_⟩
    refine (Groups.forall₂_records _ _ (hlabel _)).imp fun name i hi => ?_
    rw [gather_replace, Option.map_eq_some_iff] at hi
    obtain ⟨⟨last, index⟩, hlast, rfl⟩ := hi
    have hname := (List.mem_filter.mp (List.mem_of_getLast? hlast)).2
    rw [hlast, ← of_decide_eq_true hname]

/-- A row of an index in an information schema. -/
def indexRow (name kind unique : String) (column : Value) : Row :=
  [.text name, .text kind, .text unique, column]

/-- Rows of an index with a repeated column, with one on an expression between them. -/
def mixedIndexRows : List Row :=
  [indexRow "by_day" "btree" "YES" (.text "day"), indexRow "by_half" "hash" "NO" .null,
    indexRow "by_day" "" "NO" (.text "shop"), indexRow "by_day" "btree" "YES" (.text "day")]

/-- The same rows with the index on an expression first. -/
def sortedIndexRows : List Row :=
  [indexRow "by_half" "hash" "NO" .null, indexRow "by_day" "btree" "YES" (.text "day"),
    indexRow "by_day" "" "NO" (.text "shop"), indexRow "by_day" "btree" "YES" (.text "day")]

/-- What the index with columns has in its first row, and in a later one that repeats it. -/
def dayPart : IndexPart := ⟨"by_day", some "day", .text "btree", true⟩

/-- What it has in the row between them, from which the type is missing. -/
def shopPart : IndexPart := ⟨"by_day", some "shop", .text "", false⟩

/-- What the index on an expression has in its row. -/
def halfPart : IndexPart := ⟨"by_half", none, .text "hash", false⟩

/-- The rows of SQLite for two indexes, one of them told twice. -/
def listedIndexRows : List Row :=
  [[.int 0, .text "by_day", .int 0, .text "c", .int 0],
    [.int 1, .text "key", .int 1, .text "pk", .int 0],
    [.int 2, .text "by_day", .int 1, .text "u", .int 0]]

/-- Mixed rows and sorted ones give the same two indexes, the first with two columns and its
    first kind, and of an index that is told twice the second telling counts. -/
theorem indexes_gathered_mixed :
    ∃ indexes same listed, Catalog.decodeIndexes .postgres mixedIndexRows = .ok indexes ∧
      Catalog.decodeIndexes .postgres sortedIndexRows = .ok same ∧ indexes.Perm same ∧
      indexes.map IndexInfo.record =
        [[("name", .text "by_day"), ("index_type", .text "btree"), ("is_unique", .bool true),
          ("is_primary", .bool false), ("columns", .list [.text "day", .text "shop"])],
        [("name", .text "by_half"), ("index_type", .text "hash"), ("is_unique", .bool false),
          ("is_primary", .bool false), ("columns", .list [])]] ∧
      Catalog.decodeIndexes .sqlite listedIndexRows = .ok listed ∧
      listed.map IndexInfo.record =
        [[("name", .text "by_day"), ("index_type", .text "UNIQUE"), ("is_unique", .bool true),
          ("is_primary", .bool false), ("columns", .list [])],
        [("name", .text "key"), ("index_type", .text "PRIMARY KEY"), ("is_unique", .bool true),
          ("is_primary", .bool true), ("columns", .list [])]] := by
  have hyes : true = true ↔ Catalog.Affirms (.text "YES") :=
    iff_of_true rfl (Catalog.flag_eq_true_iff.mp rfl)
  have hno : false = true ↔ Catalog.Affirms (.text "NO") :=
    iff_of_false nofun (mt Catalog.flag_eq_true_iff.mpr (by decide))
  have hday : IndexPart.InRow (indexRow "by_day" "btree" "YES" (.text "day")) dayPart :=
    .column _ _ (Catalog.recorded_text (by decide)) hyes []
  have hshop : IndexPart.InRow (indexRow "by_day" "" "NO" (.text "shop")) shopPart :=
    .column _ _ (.missing .text) hno []
  have hhalf : IndexPart.InRow (indexRow "by_half" "hash" "NO" .null) halfPart :=
    .expression _ (Catalog.recorded_text (by decide)) hno []
  have hmixed : List.Forall₂ IndexPart.InRow mixedIndexRows
      [dayPart, halfPart, shopPart, dayPart] :=
    .cons hday (.cons hhalf (.cons hshop (.cons hday .nil)))
  have hsorted : List.Forall₂ IndexPart.InRow sortedIndexRows
      [halfPart, dayPart, shopPart, dayPart] :=
    .cons hhalf (.cons hday (.cons hshop (.cons hday .nil)))
  have hlisted := List.Forall₂.cons (PragmaIndexRow.mk "by_day" (.text "c") rfl
      (.int 0) (.int 0) (.int 0) []) <|
    .cons (.mk "key" (.text "pk") rfl (.int 1) (.int 1) (.int 0) []) <|
    .cons (.mk "by_day" (.text "u") rfl (.int 2) (.int 1) (.int 0) []) .nil
  obtain ⟨indexes, hindexes, -, hreordered⟩ :=
    (indexes_gathered mixedIndexRows).1 .postgres (by decide) _ hmixed
  obtain ⟨same, hsame, hperm⟩ := hreordered _ _ hsorted fun name => by
    -- The two indexes have different names, so no group has rows of both.
    by_cases hfirst : "by_day" = name
    · subst hfirst
      rfl
    · simp [List.filter_cons, dayPart, shopPart, hfirst]
  obtain ⟨listed, hlist, -⟩ := (indexes_gathered listedIndexRows).2 _ hlisted
  refine ⟨indexes, same, listed, hindexes, hsame, hperm, ?_, hlist, ?_⟩
  · rw [← Except.ok.inj hindexes]
    rfl
  · rw [← Except.ok.inj hlist]
    rfl

end SqlCatalog
