import SqlCatalog.Catalog.Decode
import SqlCatalog.Proofs.Basic

/-!
# Columns from Their Rows

The rows that describe the columns of a table are read for two purposes. Describing the table
decodes them into records, and naming its columns, which is what filters and sorting need, only
takes the names out of them. A table should not be there for the one and be missing for the other
because of an odd cell, so almost nothing that stands in a full row keeps it from being decoded.

Of all fields only the numbers can fail. A length, a precision or a scale that is not usable as an
integer is none, whatever it is instead: a text, bytes, NaN, a date. Infinities are what is left.
They are numbers without an integer part, and such a failure is passed on, so one of them in a
number field is enough, and the only way, to lose all columns of a table.

## Main definitions

* `fullWidth`, `namePlace`, `numberCells`: Where a full row has its name and its numbers.
* `ColumnInfo.Tells`: A record has the name and the numbers of a row.

## Theorems

* `columnName_of_decodeColumn`: A decoded column has the name that its row is read for.
* `decodeColumn_of_full`, `decodeColumn_of_infinite`: A full row is decoded, unless it holds an
  infinite number.
* `columns_decoded_of_full_rows`: So are full rows, into records with their names.
-/

namespace SqlCatalog

namespace Catalog

/-- How many cells a full row has. -/
def fullWidth (e : Engine) : Nat :=
  if e = .sqlite then 6 else 8

/-- The place of the name in a row. -/
def namePlace (e : Engine) : Nat :=
  if e = .sqlite then 1 else 0

/-- The length, the precision and the scale in a row. A pragma tells none of them. -/
def numberCells (e : Engine) (row : Row) : List Value :=
  if e = .sqlite then [.null, .null, .null] else (row.drop 2).take 3

end Catalog

/-- A record has the name that stands in a row, and its numbers are those in the row, each of them
    none when the cell is not usable as an integer. -/
structure ColumnInfo.Tells (e : Engine) (row : Row) (c : ColumnInfo) : Prop where
  name : row[Catalog.namePlace e]? = some c.name
  numbers : [c.maxLength, c.precision, c.scale] =
    (Catalog.numberCells e row).map (·.integer.toOption)

namespace Catalog

variable {e : Engine} {row : Row}

/-! ### Full rows -/

theorem PragmaColumn.ofRow_of_full (h : 6 ≤ row.length) :
    ∃ c, PragmaColumn.ofRow row = .ok c ∧ row[1]? = some c.name ∧ row[5]? = some c.rank := by
  match row, h with
  | _ :: name :: dataType :: notNull :: default :: rank :: _, _ =>
      exact ⟨⟨name, dataType, notNull, default, rank⟩, rfl, rfl, rfl⟩

theorem SchemaColumn.ofRow_of_full (h : 8 ≤ row.length) :
    ∃ c, SchemaColumn.ofRow row = .ok c ∧ row[0]? = some c.name ∧
      (row.drop 2).take 3 = [c.maxLength, c.precision, c.scale] := by
  match row, h with
  | name :: dataType :: maxLength :: precision :: scale :: isNullable :: default :: key :: _, _ =>
      exact ⟨⟨name, dataType, maxLength, precision, scale, isNullable, default, key⟩, rfl, rfl, rfl⟩

/-- The name of the column is read from a full row. -/
theorem columnName_of_full (h : fullWidth e ≤ row.length) :
    ∃ name, columnName e row = .ok name := by
  unfold columnName fullWidth at *
  by_cases he : e = .sqlite
  · rw [if_pos he] at h ⊢
    obtain ⟨c, hc, -⟩ := PragmaColumn.ofRow_of_full h
    exact ⟨c.name, by rw [hc]; rfl⟩
  · rw [if_neg he] at h ⊢
    obtain ⟨c, hc, -⟩ := SchemaColumn.ofRow_of_full h
    exact ⟨c.name, by rw [hc]; rfl⟩

/-! ### One column -/

/-- A column of an information schema is decoded with its name and its numbers. -/
theorem SchemaColumn.decode_of_bounded {c : SchemaColumn}
    (h : ∀ v ∈ [c.maxLength, c.precision, c.scale], ∀ negative, v ≠ .float (.infinite negative)) :
    ∃ info, c.decode = .ok info ∧ info.name = c.name ∧
      [info.maxLength, info.precision, info.scale] =
        [c.maxLength, c.precision, c.scale].map (·.integer.toOption) := by
  have hlength := Value.integerOrNone_eq (h c.maxLength (by simp))
  have hprecision := Value.integerOrNone_eq (h c.precision (by simp))
  have hscale := Value.integerOrNone_eq (h c.scale (by simp))
  unfold decode
  rw [hlength, hprecision, hscale]
  exact ⟨_, rfl, rfl, rfl⟩

/-- A column with an infinite number is not decoded. -/
theorem SchemaColumn.decode_of_infinite {c : SchemaColumn} {negative : Bool}
    (h : .float (.infinite negative) ∈ [c.maxLength, c.precision, c.scale]) (info : ColumnInfo) :
    c.decode ≠ .ok info := by
  intro hinfo
  have hnone (n : Option Int) : (Value.float (.infinite negative)).integerOrNone ≠ .ok n := nofun
  obtain ⟨maxLength, hlength, hinfo⟩ := ok_of_bind hinfo
  obtain ⟨precision, hprecision, hinfo⟩ := ok_of_bind hinfo
  obtain ⟨scale, hscale, -⟩ := ok_of_bind hinfo
  simp only [List.mem_cons, List.not_mem_nil, or_false] at h
  rcases h with h | h | h
  · exact hnone _ (h ▸ hlength)
  · exact hnone _ (h ▸ hprecision)
  · exact hnone _ (h ▸ hscale)

/-- A decoded column has the name that its row is read for. -/
theorem columnName_of_decodeColumn {c : ColumnInfo} (h : decodeColumn e row = .ok c) :
    columnName e row = .ok c.name := by
  unfold decodeColumn at h
  unfold columnName
  by_cases he : e = .sqlite
  · rw [if_pos he] at h ⊢
    obtain ⟨raw, hraw, h⟩ := ok_of_bind h
    rw [hraw, ← Except.ok.inj h]
    rfl
  · rw [if_neg he] at h ⊢
    obtain ⟨raw, hraw, h⟩ := ok_of_bind h
    obtain ⟨_, -, h⟩ := ok_of_bind h
    obtain ⟨_, -, h⟩ := ok_of_bind h
    obtain ⟨_, -, h⟩ := ok_of_bind h
    rw [hraw, ← Except.ok.inj h]
    rfl

/-- A full row is decoded into a record that tells it, unless it holds an infinite number. -/
theorem decodeColumn_of_full (hfull : fullWidth e ≤ row.length)
    (h : ∀ v ∈ numberCells e row, ∀ negative, v ≠ .float (.infinite negative)) :
    ∃ c, decodeColumn e row = .ok c ∧ c.Tells e row := by
  by_cases he : e = .sqlite
  · subst he
    obtain ⟨raw, hraw, hname, -⟩ := PragmaColumn.ofRow_of_full hfull
    exact ⟨raw.decode, by simp only [decodeColumn, if_true, hraw]; rfl, hname, rfl⟩
  · rw [fullWidth, if_neg he] at hfull
    obtain ⟨raw, hraw, hname, hcells⟩ := SchemaColumn.ofRow_of_full hfull
    rw [numberCells, if_neg he, hcells] at h
    obtain ⟨c, hc, hsame, hnumbers⟩ := SchemaColumn.decode_of_bounded h
    refine ⟨c, by rw [decodeColumn, if_neg he, hraw]; exact hc, ?_, ?_⟩
    · rw [namePlace, if_neg he, hname, hsame]
    · rw [numberCells, if_neg he, hcells, hnumbers]

/-- A full row with an infinite number is not decoded. -/
theorem decodeColumn_of_infinite (hfull : fullWidth e ≤ row.length) {negative : Bool}
    (h : .float (.infinite negative) ∈ numberCells e row) (c : ColumnInfo) :
    decodeColumn e row ≠ .ok c := by
  intro hc
  by_cases he : e = .sqlite
  · rw [numberCells, if_pos he] at h
    exact absurd h (by simp)
  · rw [fullWidth, if_neg he] at hfull
    obtain ⟨raw, hraw, -, hcells⟩ := SchemaColumn.ofRow_of_full hfull
    rw [numberCells, if_neg he, hcells] at h
    rw [decodeColumn, if_neg he, hraw] at hc
    exact SchemaColumn.decode_of_infinite h c hc

end Catalog

/-! ### All columns -/

/-- The names of the columns are read from full rows whatever their cells hold, and the columns
    are decoded if and only if no length, precision or scale is an infinite number. There is one
    record for every row then, in row order, and it tells the row: its name is the one that is
    read, and a number is none when its cell is not usable as an integer. -/
theorem columns_decoded_of_full_rows (e : Engine) {rows : List Row}
    (hfull : ∀ row ∈ rows, Catalog.fullWidth e ≤ row.length) :
    ∃ names, Catalog.columnNames e rows = .ok names ∧
      ((∃ columns, Catalog.decodeColumns e rows = .ok columns) ↔
        ∀ row ∈ rows, ∀ v ∈ Catalog.numberCells e row, ∀ negative,
          v ≠ .float (.infinite negative)) ∧
      ∀ columns, Catalog.decodeColumns e rows = .ok columns →
        columns.map (·.name) = names ∧ List.Forall₂ (fun row c => c.Tells e row) rows columns := by
  obtain ⟨names, hnames⟩ := exists_mapM_of_forall fun row hrow =>
    Catalog.columnName_of_full (hfull row hrow)
  have hbounded {columns : List ColumnInfo} (h : Catalog.decodeColumns e rows = .ok columns) :
      ∀ row ∈ rows, ∀ v ∈ Catalog.numberCells e row, ∀ negative,
        v ≠ .float (.infinite negative) := by
    rintro row hrow v hv negative rfl
    obtain ⟨c, -, hc⟩ := exists_of_forall₂ (mapM_eq_ok_iff.mp h).flip row hrow
    exact Catalog.decodeColumn_of_infinite (hfull row hrow) hv c hc
  refine ⟨names, hnames, ⟨fun ⟨_, h⟩ => hbounded h, fun h => ?_⟩, fun columns hcolumns => ⟨?_, ?_⟩⟩
  · refine exists_mapM_of_forall fun row hrow => ?_
    obtain ⟨c, hc, -⟩ := Catalog.decodeColumn_of_full (hfull row hrow) (h row hrow)
    exact ⟨c, hc⟩
  · have hread : Catalog.columnNames e rows = .ok (columns.map (·.name)) := by
      refine mapM_eq_ok_iff.mpr (List.forall₂_map_right_iff.mpr ?_)
      exact (mapM_eq_ok_iff.mp hcolumns).imp fun _ _ => Catalog.columnName_of_decodeColumn
    exact Except.ok.inj (hread.symm.trans hnames)
  · have hdecoded := mapM_eq_ok_iff.mp hcolumns
    refine List.forall₂_iff_zip.mpr ⟨hdecoded.length_eq, fun {row c} hmem => ?_⟩
    have hrow := (List.of_mem_zip hmem).1
    obtain ⟨info, hinfo, htells⟩ :=
      Catalog.decodeColumn_of_full (hfull row hrow) (hbounded hcolumns row hrow)
    obtain rfl := Except.ok.inj (hinfo.symm.trans ((List.forall₂_iff_zip.mp hdecoded).2 hmem))
    exact htells

/-- Rows with cells of all kinds: numbers that are none, bytes and a text that are numbers, and an
    infinity where no number is read. -/
def oddColumnRows : List Row :=
  [[.text "id", .null, .text "12a", .float .nan, .bytes .fixed [0x33], .text "yes",
      .float (.infinite true), .int 1],
    [.null, .text "real", .bool true, .text " 7 ", .text "", .null, .bytes .view [], .float .nan]]

/-- The odd rows are decoded, and so is their name. -/
theorem columns_decoded_of_odd_rows :
    (∀ row ∈ oddColumnRows, Catalog.fullWidth .postgres ≤ row.length) ∧
      ∃ columns, Catalog.decodeColumns .postgres oddColumnRows = .ok columns ∧
        columns.map (·.name) = [.text "id", .null] ∧
        List.Forall₂ (fun row c => c.Tells .postgres row) oddColumnRows columns ∧
        columns.map (fun c => [c.maxLength, c.precision, c.scale]) =
          [[none, none, some 3], [some 1, some 7, none]] := by
  have hfull : ∀ row ∈ oddColumnRows, Catalog.fullWidth .postgres ≤ row.length := by decide
  obtain ⟨names, hnames, hdecoded, htells⟩ := columns_decoded_of_full_rows .postgres hfull
  obtain ⟨columns, hcolumns⟩ := hdecoded.mpr (by
    simp [oddColumnRows, Catalog.numberCells])
  obtain ⟨hsame, hrows⟩ := htells columns hcolumns
  refine ⟨hfull, columns, hcolumns, hsame.trans (Except.ok.inj hnames).symm, hrows, ?_⟩
  rw [← Except.ok.inj hcolumns]
  rfl

/-- A column whose length is infinite. -/
def endlessColumn : Row :=
  [.text "id", .text "integer", .float (.infinite false), .null, .null, .text "NO", .null,
    .text "YES"]

/-- An infinite length keeps a column from being decoded whose name is read. -/
theorem endless_column_is_misuse :
    Catalog.fullWidth .postgres = endlessColumn.length ∧
      Catalog.columnNames .postgres [endlessColumn] = .ok [.text "id"] ∧
      Catalog.decodeColumns .postgres [endlessColumn] = .error (.misuse .unbounded) :=
  ⟨rfl, rfl, rfl⟩

end SqlCatalog
