import SqlCatalog.Proofs.Catalog.Columns
import SqlCatalog.Proofs.Session.TableStructure

/-!
# The Primary Key and Its Columns

What the pragma of SQLite tells about the columns of a table is read twice when the table is
described. The columns are decoded in table order, and those with a rank are flagged. The key is
decoded by a route of its own: it leaves out the columns without a rank and sorts the others.
The two must not tell different keys, however the ranks are spread over the table.

Sorting is what they could disagree in. It loses no column and adds none, a name that stands in
the table twice included, so the names of the key are those of the flagged columns. Ranks that are
repeated do not make the order a matter of luck either, because the sort is stable. Where the ranks
count the columns of the key, as they do in an answer of SQLite, there is no choice left at all.

## Main definitions

* `Catalog.InKeyOrder`: A table in the order of its ranks.
* `Catalog.IsKeyOf`: The key that a table with flags and ranks has.
* `Catalog.keyRanks`: The ranks of a key, counted from one.

## Theorems

* `Catalog.inKeyOrder_mergeSort`: A stable sort puts a table in the order of its ranks.
* `Catalog.IsKeyOf.places_of_ranks`: Ranks that count the columns of the key are their places.
* `Catalog.isKeyOf_decodePrimaryKey`: The key that is decoded is that of the decoded columns.
* `key_agrees_with_flags`: The key and the flags are those of one table.
-/

namespace SqlCatalog

/-- Integers are ordered as they are. -/
theorem Value.below?_int (m n : Int) : (Value.int m).below? (.int n) = some (decide (m < n)) := by
  rw [below?]
  · refine congrArg some (Bool.eq_iff_iff.mpr ?_)
    change (some (compare m n) == some Ordering.lt) = true ↔ decide (m < n) = true
    simp [Int.compare_eq_lt]
  all_goals nofun

namespace Catalog

/-! ### Orders by rank -/

/-- A table in the order of its ranks. Nothing is lost or added, the ranks ascend, and what has
    one rank stays in table order. -/
structure InKeyOrder {α : Type} (rank : α → Int) (table order : List α) : Prop where
  perm : order.Perm table
  ascending : order.Pairwise fun a b => rank a ≤ rank b
  stable : ∀ r, order.filter (rank · = r) = table.filter (rank · = r)

/-- A stable sort puts a table in the order of its ranks. -/
theorem inKeyOrder_mergeSort {α : Type} (rank : α → Int) (table : List α) :
    InKeyOrder rank table (table.mergeSort fun a b => decide (rank a ≤ rank b)) := by
  have htrans (a b c : α) (hab : decide (rank a ≤ rank b) = true)
      (hbc : decide (rank b ≤ rank c) = true) : decide (rank a ≤ rank c) = true :=
    decide_eq_true (Int.le_trans (of_decide_eq_true hab) (of_decide_eq_true hbc))
  have htotal (a b : α) : (decide (rank a ≤ rank b) || decide (rank b ≤ rank a)) = true := by
    simpa using Int.le_total (rank a) (rank b)
  have hperm := List.mergeSort_perm table fun a b => decide (rank a ≤ rank b)
  refine ⟨hperm, (List.pairwise_mergeSort htrans htotal table).imp of_decide_eq_true,
    fun r => ?_⟩
  -- The items of one rank ascend as they stand, so they keep their order in the sorted table.
  have hascend : (table.filter (rank · = r)).Pairwise fun a b => decide (rank a ≤ rank b) = true :=
    List.pairwise_of_forall_mem_list fun a ha b hb => by
      rw [of_decide_eq_true (List.mem_filter.mp ha).2, of_decide_eq_true (List.mem_filter.mp hb).2]
      exact decide_eq_true (Int.le_refl r)
  have hkept := List.sublist_mergeSort htrans htotal hascend List.filter_sublist
  replace hkept := hkept.filter (rank · = r)
  rw [List.filter_filter] at hkept
  simp only [Bool.and_self] at hkept
  exact (hkept.eq_of_length (hperm.filter _).length_eq.symm).symm

/-! ### Keys -/

/-- The key that a table with flags and ranks has: the names of the flagged columns, in the order
    of their ranks. -/
def IsKeyOf (table : List (ColumnInfo × Int)) (key : List Value) : Prop :=
  ∃ order, InKeyOrder Prod.snd (table.filter (·.1.isPrimaryKey)) order ∧
    key = order.map (·.1.name)

/-- The ranks of a key of some number of columns, counted from one. -/
def keyRanks (k : Nat) : List Int :=
  (List.range k).map fun i : Nat => (i : Int) + 1

/-- Ranks that count the columns of the key are their places in it. -/
theorem IsKeyOf.places_of_ranks {table : List (ColumnInfo × Int)} {key : List Value} {k : Nat}
    (h : IsKeyOf table key) (hflags : ∀ c ∈ table, c.1.isPrimaryKey = decide (c.2 ≠ 0))
    (hranks : ((table.map Prod.snd).filter (· ≠ 0)).Perm (keyRanks k)) :
    key.length = k ∧ ∀ c ∈ table, ∀ i : Nat, c.2 = (i : Int) + 1 → key[i]? = some c.1.name := by
  obtain ⟨order, horder, rfl⟩ := h
  have hmembers : (table.filter (·.1.isPrimaryKey)).map Prod.snd =
      (table.map Prod.snd).filter (· ≠ 0) := by
    rw [List.filter_map, List.filter_congr hflags]
    rfl
  -- Both lists of ranks ascend, so the one is the other.
  have hcount : order.map Prod.snd = keyRanks k := by
    refine List.Perm.eq_of_pairwise (fun a b _ _ => Int.le_antisymm)
      (List.pairwise_map.mpr horder.ascending) (List.pairwise_map.mpr ?_)
      ((horder.perm.map Prod.snd).trans (hmembers ▸ hranks))
    exact List.pairwise_lt_range.imp fun hlt => by omega
  refine ⟨by simpa [keyRanks] using congrArg List.length hcount, fun c hc i hi => ?_⟩
  have hflagged : c.1.isPrimaryKey = true := by
    rw [hflags c hc, hi]
    exact decide_eq_true (by omega)
  obtain ⟨j, hj⟩ := List.mem_iff_getElem?.mp
    (horder.perm.mem_iff.mpr (List.mem_filter.mpr ⟨hc, hflagged⟩))
  have hplace : (keyRanks k)[j]? = some c.2 := by
    rw [← hcount, List.getElem?_map, hj]
    rfl
  obtain ⟨_, hplace⟩ := List.getElem?_eq_some_iff.mp hplace
  simp only [keyRanks, List.getElem_map, List.getElem_range, hi] at hplace
  obtain rfl : j = i := by omega
  rw [List.getElem?_map, hj]
  rfl

/-! ### Decoding -/

/-- A column with its rank, which is zero where it is no integer. -/
def PragmaColumn.ranked (c : PragmaColumn) : ColumnInfo × Int :=
  (c.decode, c.rank.integer.toOption.getD 0)

/-- Integers can be ordered against each other. -/
theorem orderable_of_integers {vs : List Value} (h : ∀ v ∈ vs, ∃ n, v = .int n) :
    orderable vs = true := by
  induction vs with
  | nil => rfl
  | cons v rest ih =>
      obtain ⟨m, rfl⟩ := h v List.mem_cons_self
      have hrest : ∀ w ∈ rest, ∃ n, w = .int n := fun w hw => h w (List.mem_cons_of_mem _ hw)
      rw [orderable, ih hrest, Bool.and_true]
      refine List.all_eq_true.mpr fun w hw => ?_
      obtain ⟨n, rfl⟩ := hrest w hw
      rfl

/-- Among integers the order of columns is that of their ranks. -/
theorem PragmaColumn.map_ranked_byRank {columns : List PragmaColumn}
    (h : ∀ c ∈ columns, ∃ n, c.rank = .int n) :
    (byRank columns).map ranked =
      (columns.map ranked).mergeSort fun a b => decide (a.2 ≤ b.2) := by
  refine List.map_mergeSort fun c hc d hd => ?_
  obtain ⟨m, hm⟩ := h c hc
  obtain ⟨n, hn⟩ := h d hd
  have hrank : c.ranked.2 = m ∧ d.ranked.2 = n := by
    rw [ranked, ranked, hm, hn]
    exact ⟨rfl, rfl⟩
  rw [hm, hn, Value.below?_int, Option.getD_some, hrank.1, hrank.2, ← decide_not]
  exact decide_eq_decide.mpr Int.not_lt

/-- A row with a rank is a full one. -/
theorem PragmaColumn.ofRow_of_rank {row : Row} {rank : Int} (h : row[5]? = some (.int rank)) :
    ∃ c, ofRow row = .ok c ∧ c.rank = .int rank := by
  obtain ⟨hfull, -⟩ := List.getElem?_eq_some_iff.mp h
  obtain ⟨c, hc, -, hrank⟩ := ofRow_of_full hfull
  exact ⟨c, hc, Option.some.inj (hrank.symm.trans h)⟩

/-- Rows with ranks are those of columns with these ranks. -/
theorem PragmaColumn.exists_of_ranks {rows : List Row} {ranks : List Int}
    (h : List.Forall₂ (fun row rank => row[5]? = some (.int rank)) rows ranks) :
    ∃ columns, rows.mapM ofRow = .ok columns ∧
      List.Forall₂ (fun c rank => c.rank = .int rank) columns ranks := by
  induction h with
  | nil => exact ⟨[], rfl, .nil⟩
  | cons hrow _ ih =>
      obtain ⟨c, hc, hrank⟩ := ofRow_of_rank hrow
      obtain ⟨columns, hcolumns, hranks⟩ := ih
      exact ⟨c :: columns, mapM_eq_ok_iff.mpr (.cons hc (mapM_eq_ok_iff.mp hcolumns)),
        .cons hrank hranks⟩

/-- Columns that stand beside their ranks are columns with their ranks. -/
theorem PragmaColumn.zip_of_ranks {columns : List PragmaColumn} {ranks : List Int}
    (h : List.Forall₂ (fun c rank => c.rank = .int rank) columns ranks) :
    (columns.map decode).zip ranks = columns.map (·.ranked) := by
  induction h with
  | nil => rfl
  | @cons c rank _ _ hrank _ ih =>
      have hfirst : c.ranked = (c.decode, rank) := by
        rw [ranked, hrank]
        rfl
      rw [List.map_cons, List.map_cons, List.zip_cons_cons, ih, hfirst]

/-- A column is flagged if and only if its rank is not zero. -/
theorem PragmaColumn.isPrimaryKey_decode {c : PragmaColumn} {rank : Int}
    (h : c.rank = .int rank) : c.decode.isPrimaryKey = decide (rank ≠ 0) := by
  change c.rank.isTruthy = _
  rw [h, Value.isTruthy]
  exact Bool.eq_iff_iff.mpr (by simp)

/-- The columns that a pragma tells are decoded one by one. -/
theorem decodeColumns_of_pragma {rows : List Row} {columns : List PragmaColumn}
    (h : rows.mapM PragmaColumn.ofRow = .ok columns) :
    decodeColumns .sqlite rows = .ok (columns.map PragmaColumn.decode) := by
  refine mapM_eq_ok_iff.mpr (List.forall₂_map_right_iff.mpr ?_)
  refine (mapM_eq_ok_iff.mp h).imp fun row c hc => ?_
  rw [decodeColumn, if_pos rfl, hc]
  rfl

/-- The key that is decoded is that of the decoded columns. -/
theorem isKeyOf_decodePrimaryKey {rows : List Row} {columns : List PragmaColumn}
    (h : rows.mapM PragmaColumn.ofRow = .ok columns)
    (hranks : ∀ c ∈ columns, ∃ n, c.rank = .int n) :
    ∃ key, decodePrimaryKey .sqlite rows = .ok key ∧ IsKeyOf (columns.map (·.ranked)) key := by
  have hmembers : ∀ c ∈ columns.filter (·.rank.isTruthy), ∃ n, c.rank = .int n :=
    fun c hc => hranks c (List.mem_filter.mp hc).1
  have hordered : orderable ((columns.filter (·.rank.isTruthy)).map (·.rank)) = true :=
    orderable_of_integers (List.forall_mem_map.mpr hmembers)
  -- A column is flagged by the test that makes it a member of the key.
  have hflagged : (columns.map (·.ranked)).filter (·.1.isPrimaryKey) =
      (columns.filter (·.rank.isTruthy)).map (·.ranked) := List.filter_map
  refine ⟨(byRank (columns.filter (·.rank.isTruthy))).map (·.name), ?_,
    (byRank (columns.filter (·.rank.isTruthy))).map (·.ranked), ?_, ?_⟩
  · rw [decodePrimaryKey, if_pos rfl, h]
    exact if_pos hordered
  · rw [hflagged, PragmaColumn.map_ranked_byRank hmembers]
    exact inKeyOrder_mergeSort Prod.snd _
  · rw [List.map_map]
    rfl

end Catalog

/-! ### Both readings -/

/-- The key and the flags are those of one table. From rows whose ranks are integers both are
    decoded: a column is flagged if and only if its rank is not zero, and the key lists the names
    of the flagged columns by ascending rank, with table order kept among those of one rank. Where
    the ranks that are not zero count up from one, the key has the columns at the places that
    their ranks say. So when the structure of a table is reported and the queries for its columns
    and for its key had the same rows, then the key that is reported is the one of the columns
    that are reported. -/
theorem key_agrees_with_flags {rows : List Row} {ranks : List Int}
    (hrows : List.Forall₂ (fun row rank => row[5]? = some (.int rank)) rows ranks) :
    ∃ columns key, Catalog.decodeColumns .sqlite rows = .ok columns ∧
      Catalog.decodePrimaryKey .sqlite rows = .ok key ∧
      List.Forall₂ (fun c rank => c.isPrimaryKey = decide (rank ≠ 0)) columns ranks ∧
      Catalog.IsKeyOf (columns.zip ranks) key ∧
      (∀ k, (ranks.filter (· ≠ 0)).Perm (Catalog.keyRanks k) →
        key.length = k ∧
          ∀ c ∈ columns.zip ranks, ∀ i : Nat, c.2 = (i : Int) + 1 → key[i]? = some c.1.name) ∧
      ∀ {σ : Type} [Server σ] (s : Session σ) (args : Arguments) (v : Value),
        s.frame.engine = some .sqlite → (s.call .getTableSchema args).1 = .ok v →
        ∃ (t : TableSchema) (a : TableAnswers), v = t.record.value ∧
          t.IsRead .sqlite (s.callRuns .getTableSchema args) a ∧
          (a.described.rows = rows → a.keyed.rows = rows →
            t.columns = columns ∧ t.primaryKey = key) := by
  obtain ⟨raws, hraws, hranks⟩ := Catalog.PragmaColumn.exists_of_ranks hrows
  have hints : ∀ c ∈ raws, ∃ n, c.rank = .int n := fun c hc => by
    obtain ⟨n, -, hn⟩ := exists_of_forall₂ hranks.flip c hc
    exact ⟨n, hn⟩
  obtain ⟨key, hkey, hisKey⟩ := Catalog.isKeyOf_decodePrimaryKey hraws hints
  have hflags : List.Forall₂ (fun c rank => c.isPrimaryKey = decide (rank ≠ 0))
      (raws.map Catalog.PragmaColumn.decode) ranks :=
    List.forall₂_map_left_iff.mpr (hranks.imp fun _ _ => Catalog.PragmaColumn.isPrimaryKey_decode)
  rw [← Catalog.PragmaColumn.zip_of_ranks hranks] at hisKey
  refine ⟨_, key, Catalog.decodeColumns_of_pragma hraws, hkey, hflags, hisKey, fun k hcount => ?_,
    fun s args v hengine hv => ?_⟩
  · refine hisKey.places_of_ranks (fun c hc => (List.forall₂_iff_zip.mp hflags).2 hc) ?_
    rwa [List.map_snd_zip (Nat.le_of_eq hflags.length_eq.symm)]
  · obtain ⟨t, e, a, ht, he, hread⟩ := Reader.isRead_of_call hv
    obtain rfl := Option.some.inj (hengine.symm.trans he)
    refine ⟨t, a, ht, hread, fun hdescribed hkeyed => ⟨?_, ?_⟩⟩
    · have hcolumns := hread.columns
      rw [hdescribed, Catalog.decodeColumns_of_pragma hraws] at hcolumns
      exact (Except.ok.inj hcolumns).symm
    · have hprimaryKey := hread.primaryKey
      rw [hkeyed, hkey] at hprimaryKey
      exact (Except.ok.inj hprimaryKey).symm

/-- The lines of orders, whose key is not in column order. -/
def orderLines : ResultSet where
  columns := ["cid", "name", "type", "notnull", "dflt_value", "pk"]
  rows := [
    [.int 0, .text "line", .text "INTEGER", .int 1, .null, .int 2],
    [.int 1, .text "note", .text "TEXT", .int 0, .null, .int 0],
    [.int 2, .text "order_id", .text "INTEGER", .int 1, .null, .int 1]]

/-- A session whose server tells the lines of orders to both queries. -/
def orderLinesSession : Session Script where
  context := { engine := some .sqlite, connection := some "main" }
  server := { queues := [("main", [.reply { result := orderLines },
    .reply { result := orderLines }])] }

/-- The key of the lines of orders is in the order of its ranks, and it is reported so. -/
theorem key_of_order_lines :
    List.Forall₂ (fun row rank => row[5]? = some (.int rank)) orderLines.rows [2, 0, 1] ∧
      Catalog.decodePrimaryKey .sqlite orderLines.rows = .ok [.text "order_id", .text "line"] ∧
      ∃ t : TableSchema,
        (orderLinesSession.call .getTableSchema [("table", .text "order_lines")]).1 =
          .ok t.record.value ∧
        t.columns.map (fun c => (c.name, c.isPrimaryKey)) =
          [(.text "line", true), (.text "note", false), (.text "order_id", true)] ∧
        t.primaryKey = [.text "order_id", .text "line"] := by
  have hrows : List.Forall₂ (fun row rank => row[5]? = some (.int rank)) orderLines.rows
      [2, 0, 1] := .cons rfl (.cons rfl (.cons rfl .nil))
  obtain ⟨columns, key, hcolumns, hkey, -, -, hplaces, hreported⟩ := key_agrees_with_flags hrows
  obtain rfl := Except.ok.inj hcolumns
  obtain ⟨hlength, hplace⟩ := hplaces 2 (by decide)
  have hnames : key = [.text "order_id", .text "line"] := by
    refine List.ext_getElem? fun i => ?_
    match i with
    | 0 => exact hplace _ (.tail _ (.tail _ (.head _))) 0 rfl
    | 1 => exact hplace _ (.head _) 1 rfl
    | i + 2 => simp [hlength]
  obtain ⟨v, hv⟩ : ∃ v, (orderLinesSession.call .getTableSchema
      [("table", .text "order_lines")]).1 = .ok v := ⟨_, rfl⟩
  obtain ⟨t, a, rfl, hread, hsame⟩ := hreported orderLinesSession _ v rfl hv
  have hdescribed : a.described = orderLines := hread.described.unique ⟨_, rfl, rfl⟩
  have hkeyed : a.keyed = orderLines := hread.keyed.unique ⟨_, rfl, rfl⟩
  obtain ⟨htable, hprimaryKey⟩ := hsame (by rw [hdescribed]) (by rw [hkeyed])
  exact ⟨hrows, hnames ▸ hkey, t, hv, by rw [htable]; rfl, hprimaryKey.trans hnames⟩

end SqlCatalog
