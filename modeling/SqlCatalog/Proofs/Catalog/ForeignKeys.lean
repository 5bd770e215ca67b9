import SqlCatalog.Catalog.Decode
import SqlCatalog.Proofs.Catalog.Cells
import SqlCatalog.Proofs.Catalog.Grouping
import SqlCatalog.Proofs.Text.Numerals

/-!
# Foreign Keys from Their Rows

A foreign key has a row for each of its columns, and the rows of several keys may be mixed.
Decoding puts them together again: every key comes out once, where its first row stood, with
the columns of its own rows side by side with the columns that they refer to, in row order.

The two lists of a key are filled by one function that puts an item on both (`addPair`), so
they can never shift against each other. A slip of that kind would pair a column with the
wrong referenced one, and nothing in the record would show it.

The rows come in two shapes. An information schema names its keys; SQLite numbers them, and
the record is named after the number. Numbers that differ give names that differ, so grouping
by name is grouping by number.

## Main definitions

* `ForeignKeyId`: What tells one foreign key from another.
* `ForeignKeyPart`: What a row says about a foreign key.
* `ForeignKeyPart.InRow`: The rows that say it.
* `ForeignKeyInfo.Gathers`: A record holds what the rows of its key say.

## Theorems

* `ForeignKeyPart.gathers_of_gather`: The rows of one key make the record that gathers them.
* `decodeForeignKeys_eq`: Decoding collects what the rows say.
* `foreign_keys_gathered`: Every foreign key is decoded from its own rows and from all of them.
-/

namespace SqlCatalog

/-- What tells one foreign key of a table from another: its name, or its number where keys
    have no names. -/
inductive ForeignKeyId where
  | named (name : String)
  | numbered (n : Int)
deriving DecidableEq

namespace ForeignKeyId

/-- The name that a record has. -/
def label : ForeignKeyId → String
  | .named name => name
  | .numbered n => "fk_" ++ toString n

/-- Whether the key has a number instead of a name. -/
def isNumbered : ForeignKeyId → Bool
  | .named _ => false
  | .numbered _ => true

/-- Names tell keys with names apart, and keys with numbers too. -/
theorem label_inj {i j : ForeignKeyId} (hkind : i.isNumbered = j.isNumbered)
    (h : i.label = j.label) : i = j := by
  cases i with
  | named name =>
      cases j with
      | named other => exact congrArg named h
      | numbered n => exact absurd hkind (by simp [isNumbered])
  | numbered n =>
      cases j with
      | named other => exact absurd hkind (by simp [isNumbered])
      | numbered m => exact congrArg numbered (number_inj ((String.append_right_inj "fk_").mp h))

end ForeignKeyId

/-- What a row says about a foreign key: one of its columns with the column that it refers to,
    and the table that is referred to. -/
structure ForeignKeyPart where
  id : ForeignKeyId
  column : Value
  referencedColumn : Value
  referencedSchema : Value
  referencedTable : Value

namespace ForeignKeyPart

/-- The rows of foreign keys. In an information schema the schema and the table that are referred
    to may be missing. SQLite answers with a number, a place in the key, the table and the two
    columns, and all its tables are in one schema. -/
inductive InRow : Engine → Row → ForeignKeyPart → Prop
  | schema {e : Engine} (he : e ≠ .sqlite) (name : String)
      {column schema table referenced inSchema toTable : Value}
      (hschema : Catalog.Recorded schema inSchema) (htable : Catalog.Recorded table toTable)
      (more : List Value) :
      InRow e (.text name :: column :: schema :: table :: referenced :: more)
        ⟨.named name, column, referenced, inSchema, toTable⟩
  | pragma (n : Int) (place table column referenced : Value) (more : List Value) :
      InRow .sqlite (.int n :: place :: table :: column :: referenced :: more)
        ⟨.numbered n, column, referenced, .text "main", table⟩

/-- The record that a key has before its columns. -/
def fresh (p : ForeignKeyPart) : ForeignKeyInfo :=
  { name := .text p.id.label, referencedSchema := p.referencedSchema,
    referencedTable := p.referencedTable }

/-- The record with the columns of one more row. -/
def extend (p : ForeignKeyPart) (k : ForeignKeyInfo) : ForeignKeyInfo :=
  Catalog.addPair p.column p.referencedColumn k

end ForeignKeyPart

/-- The record of a foreign key holds what the rows of the key say: its name, its columns
    paired with the columns that they refer to, one pair for each row in row order, and schema
    and table of the first row. -/
structure ForeignKeyInfo.Gathers (id : ForeignKeyId) (parts : List ForeignKeyPart)
    (k : ForeignKeyInfo) : Prop where
  name_eq : k.name = .text id.label
  length_eq : k.columns.length = k.referencedColumns.length
  pairs_eq : k.columns.zip k.referencedColumns = parts.map fun p => (p.column, p.referencedColumn)
  first_eq : ∃ first ∈ parts.head?,
    k.referencedSchema = first.referencedSchema ∧ k.referencedTable = first.referencedTable

namespace ForeignKeyPart

/-- Every row puts one pair of columns behind those of the rows before it. -/
theorem foldl_extend (parts : List ForeignKeyPart) (k : ForeignKeyInfo) :
    parts.foldl (fun k p => p.extend k) k =
      { k with columns := k.columns ++ parts.map (·.column),
               referencedColumns := k.referencedColumns ++ parts.map (·.referencedColumn) } := by
  induction parts generalizing k with
  | nil => simp
  | cons p rest ih =>
      rw [List.foldl_cons, ih]
      simp [extend, Catalog.addPair]

/-- The rows of one key make the record that gathers them. -/
theorem gathers_of_gather {id : ForeignKeyId} {parts : List ForeignKeyPart} {k : ForeignKeyInfo}
    (hid : ∀ p ∈ parts, p.id = id) (h : Groups.gather fresh extend parts = some k) :
    k.Gathers id parts := by
  cases parts with
  | nil => exact absurd h (by simp [Groups.gather])
  | cons first rest =>
      rw [Groups.gather, foldl_extend] at h
      obtain rfl := Option.some.inj h
      refine ⟨?_, ?_, ?_, first, rfl, rfl, rfl⟩
      · rw [← hid first List.mem_cons_self]
        rfl
      · rw [List.length_append, List.length_append, List.length_map, List.length_map]
        rfl
      · exact List.zip_map'

variable {e : Engine} {rows : List Row} {parts : List ForeignKeyPart}

/-- The keys of one engine all have names, or all have numbers. -/
theorem isNumbered_of_inRow {row : Row} {p : ForeignKeyPart} (h : InRow e row p) :
    p.id.isNumbered = decide (e = .sqlite) := by
  cases h with
  | schema he => exact (decide_eq_false he).symm
  | pragma => rfl

/-- So the name of a key tells it from the others. -/
theorem label_inj_of_inRow (hrows : List.Forall₂ (InRow e) rows parts) :
    ∀ i ∈ parts.map (·.id), ∀ j ∈ parts.map (·.id), i.label = j.label → i = j := by
  have hkind : ∀ i ∈ parts.map (·.id), i.isNumbered = decide (e = .sqlite) := by
    intro i hi
    obtain ⟨p, hp, rfl⟩ := List.mem_map.mp hi
    obtain ⟨row, -, hrow⟩ := exists_of_forall₂ hrows p hp
    exact isNumbered_of_inRow hrow
  exact fun i hi j hj h => ForeignKeyId.label_inj ((hkind i hi).trans (hkind j hj).symm) h

end ForeignKeyPart

/-- A row changes the table of keys as the part in it says. -/
theorem step_of_inRow {e : Engine} {row : Row} {p : ForeignKeyPart}
    (h : ForeignKeyPart.InRow e row p) (groups : Groups ForeignKeyInfo) :
    (if e = .sqlite then do
        let r ← Catalog.PragmaForeignKey.ofRow row
        return Catalog.addPragmaForeignKey groups r
      else do
        let r ← Catalog.SchemaForeignKey.ofRow row
        Catalog.addForeignKeyRow groups r : Outcome (Groups ForeignKeyInfo)) =
      .ok (groups.update (.text p.id.label) p.fresh p.extend) := by
  cases h with
  | schema he name hschema htable =>
      obtain rfl := Catalog.recorded_iff.mp hschema
      obtain rfl := Catalog.recorded_iff.mp htable
      rw [if_neg he]
      rfl
  | pragma => rfl

/-- The foreign keys that rows describe are what is collected from the parts in them. -/
theorem decodeForeignKeys_eq {e : Engine} {rows : List Row} {parts : List ForeignKeyPart}
    (hrows : List.Forall₂ (ForeignKeyPart.InRow e) rows parts) :
    Catalog.decodeForeignKeys e rows =
      .ok (Groups.collect ForeignKeyId.label ForeignKeyPart.id ForeignKeyPart.fresh
        ForeignKeyPart.extend parts).records := by
  have hsteps := hrows.imp fun _ _ h => step_of_inRow h
  unfold Catalog.decodeForeignKeys
  by_cases he : e = .sqlite
  · simp only [if_pos he] at hsteps ⊢
    rw [foldlM_eq_ok hsteps []]
    rfl
  · simp only [if_neg he] at hsteps ⊢
    rw [foldlM_eq_ok hsteps []]
    rfl

/-- The foreign keys of a table are decoded from their rows. There is one record for every key,
    in the order in which the keys first appear in the rows, and it gathers what the rows of its
    key say, no more and no less. Rows that are the same key by key give the same records,
    however the rows of different keys are mixed. -/
theorem foreign_keys_gathered {e : Engine} {rows : List Row} {parts : List ForeignKeyPart}
    (hrows : List.Forall₂ (ForeignKeyPart.InRow e) rows parts) :
    ∃ keys, Catalog.decodeForeignKeys e rows = .ok keys ∧
      List.Forall₂ (fun id k => k.Gathers id (parts.filter (·.id = id)))
        (parts.map (·.id)).eraseDups keys ∧
      ∀ reordered others, List.Forall₂ (ForeignKeyPart.InRow e) reordered others →
        (∀ id, parts.filter (·.id = id) = others.filter (·.id = id)) →
        ∃ same, Catalog.decodeForeignKeys e reordered = .ok same ∧ keys.Perm same := by
  have hlabel := ForeignKeyPart.label_inj_of_inRow hrows
  refine ⟨_, decodeForeignKeys_eq hrows, ?_, fun reordered others hothers hsame => ?_⟩
  · refine (Groups.forall₂_records _ _ hlabel).imp fun id k hk => ?_
    refine ForeignKeyPart.gathers_of_gather (fun p hp => ?_) hk
    exact of_decide_eq_true (List.mem_filter.mp hp).2
  · exact ⟨_, decodeForeignKeys_eq hothers, Groups.perm_records hsame hlabel
      (ForeignKeyPart.label_inj_of_inRow hothers)⟩

/-- The rows of two keys, one of which has two columns and the other stands between them. What
    it refers to is left out, as it may be for a primary key. -/
def mixedKeyRows : List Row :=
  [[.int 0, .int 0, .text "orders", .text "order_id", .text "id"],
    [.int 1, .int 0, .text "items", .text "item", .null],
    [.int 0, .int 1, .text "orders", .text "order_region", .text "region"]]

/-- The same rows with the other key first. -/
def sortedKeyRows : List Row :=
  [[.int 1, .int 0, .text "items", .text "item", .null],
    [.int 0, .int 0, .text "orders", .text "order_id", .text "id"],
    [.int 0, .int 1, .text "orders", .text "order_region", .text "region"]]

/-- A part of the first key. -/
def orderPart (column referenced : String) : ForeignKeyPart :=
  ⟨.numbered 0, .text column, .text referenced, .text "main", .text "orders"⟩

/-- The part that the second key has. -/
def itemPart : ForeignKeyPart :=
  ⟨.numbered 1, .text "item", .null, .text "main", .text "items"⟩

/-- The rows of two keys with names, mixed too. One refers to a table without a schema, and the
    second row of the other does not say again what the first has said. -/
def namedKeyRows : List Row :=
  [[.text "to_orders", .text "order_id", .text "shop", .text "orders", .text "id"],
    [.text "to_items", .text "item", .null, .text "items", .text "code"],
    [.text "to_orders", .text "order_region", .null, .text "", .text "region"]]

/-- The mixed rows and the sorted ones give the same two keys, and the key with two columns
    keeps them in order. Keys with names refer to the schema of their first row, or to none. -/
theorem foreign_keys_gathered_mixed :
    ∃ keys same named, Catalog.decodeForeignKeys .sqlite mixedKeyRows = .ok keys ∧
      Catalog.decodeForeignKeys .sqlite sortedKeyRows = .ok same ∧ keys.Perm same ∧
      List.Forall₂ (fun id k => k.Gathers id
          ([orderPart "order_id" "id", itemPart, orderPart "order_region" "region"].filter
            (·.id = id)))
        [.numbered 0, .numbered 1] keys ∧
      keys.map ForeignKeyInfo.record =
        [[("name", .text "fk_0"), ("columns", .list [.text "order_id", .text "order_region"]),
          ("referenced_schema", .text "main"), ("referenced_table", .text "orders"),
          ("referenced_columns", .list [.text "id", .text "region"])],
        [("name", .text "fk_1"), ("columns", .list [.text "item"]),
          ("referenced_schema", .text "main"), ("referenced_table", .text "items"),
          ("referenced_columns", .list [.null])]] ∧
      Catalog.decodeForeignKeys .postgres namedKeyRows = .ok named ∧
      named.map ForeignKeyInfo.record =
        [[("name", .text "to_orders"), ("columns", .list [.text "order_id", .text "order_region"]),
          ("referenced_schema", .text "shop"), ("referenced_table", .text "orders"),
          ("referenced_columns", .list [.text "id", .text "region"])],
        [("name", .text "to_items"), ("columns", .list [.text "item"]),
          ("referenced_schema", .text ""), ("referenced_table", .text "items"),
          ("referenced_columns", .list [.text "code"])]] := by
  have hmixed : List.Forall₂ (ForeignKeyPart.InRow .sqlite) mixedKeyRows
      [orderPart "order_id" "id", itemPart, orderPart "order_region" "region"] :=
    .cons (.pragma ..) (.cons (.pragma ..) (.cons (.pragma ..) .nil))
  have hsorted : List.Forall₂ (ForeignKeyPart.InRow .sqlite) sortedKeyRows
      [itemPart, orderPart "order_id" "id", orderPart "order_region" "region"] :=
    .cons (.pragma ..) (.cons (.pragma ..) (.cons (.pragma ..) .nil))
  have hpostgres : Engine.postgres ≠ .sqlite := by decide
  have hshop : Catalog.Recorded (.text "shop") (.text "shop") := Catalog.recorded_text (by decide)
  have horders : Catalog.Recorded (.text "orders") (.text "orders") :=
    Catalog.recorded_text (by decide)
  have hitems : Catalog.Recorded (.text "items") (.text "items") :=
    Catalog.recorded_text (by decide)
  have hnamed : List.Forall₂ (ForeignKeyPart.InRow .postgres) namedKeyRows
      [⟨.named "to_orders", .text "order_id", .text "id", .text "shop", .text "orders"⟩,
        ⟨.named "to_items", .text "item", .text "code", .text "", .text "items"⟩,
        ⟨.named "to_orders", .text "order_region", .text "region", .text "", .text ""⟩] :=
    .cons (.schema hpostgres _ hshop horders []) <|
    .cons (.schema hpostgres _ (.missing .null) hitems []) <|
    .cons (.schema hpostgres _ (.missing .null) (.missing .text) []) .nil
  obtain ⟨keys, hkeys, hgathered, hreordered⟩ := foreign_keys_gathered hmixed
  obtain ⟨same, hsame, hperm⟩ := hreordered _ _ hsorted fun id => by
    -- The two keys have different numbers, so no group has rows of both.
    by_cases hfirst : ForeignKeyId.numbered 0 = id
    · subst hfirst
      rfl
    · simp [List.filter_cons, orderPart, hfirst]
  obtain ⟨named, hnames, -⟩ := foreign_keys_gathered hnamed
  refine ⟨keys, same, named, hkeys, hsame, hperm, hgathered, ?_, hnames, ?_⟩
  · rw [← Except.ok.inj hkeys]
    rfl
  · rw [← Except.ok.inj hnames]
    rfl

end SqlCatalog
