import SqlCatalog.Engine.Basic
import SqlCatalog.Proofs.Basic
import SqlCatalog.Proofs.Cache.Key

/-!
# The Cache as a List by Recency

What the column cache is to its users: a list of tables with their columns, ordered by their
last use, which holds no more than a bounded number of them and lets go of the one that was
not used for the longest time.

The cache itself knows no tables. It keeps its lists under texts, in which the names of the
driver, the schema and the table stand one after the other with colons between them, and it
tells the lists of a driver by how their texts begin. Both are safe as long as no name holds a
colon: then a text falls apart into its three names again (`TableKey.text_inj`), and it begins
with a driver and a colon only when that is its driver (`TableKey.isPrefixOf_text`). `Mirrors`
carries this through any number of calls.

## Main definitions

* `CacheCall`, `CacheReport`: What is asked of a cache, and what can be told afterwards.
* `TableKey`: A table as far as the cache tells tables apart.
* `Recency`: The tables with their columns, ordered by their last use.
* `Mirrors`: A cache that holds the same as a list by recency.

## Theorems

* `TableKey.text_inj`: Tables with the same text are the same.
* `Mirrors.take`: A call is answered alike, and leaves the two holding the same.
* `reports_eq_recency`: A cache cannot be told from a list by recency.
-/

namespace SqlCatalog

/-! ### Calls -/

/-- What is asked of a cache: the columns of a table, with what the loader would come back
    with, or to forget all lists, those of a driver, or the one of a table. -/
inductive CacheCall where
  | columns (e : Engine) (schema table : String) (load : Outcome (List Value))
  | forget (driver : Option Engine) (schema table : String)

/-- The names of the call hold no colon. -/
def CacheCall.Plain : CacheCall → Prop
  | .columns _ schema table _ | .forget _ schema table =>
    ':' ∉ schema.toList ∧ ':' ∉ table.toList

instance : DecidablePred CacheCall.Plain
  | .columns _ schema table _ | .forget _ schema table =>
    inferInstanceAs (Decidable (':' ∉ schema.toList ∧ ':' ∉ table.toList))

/-- What can be told about a call: the columns and whether the loader was asked, when columns
    were asked for, and how many lists there are afterwards. -/
structure CacheReport where
  answer : Option (Outcome (List Value) × Bool)
  size : Nat

namespace ColumnCache

/-- What can be told about a call, and the cache after it. -/
def take (c : ColumnCache) : CacheCall → CacheReport × ColumnCache
  | .columns e schema table load =>
    let reply := c.ask (key e.driverName schema table) load
    (⟨some (reply.columns, reply.loaded), reply.cache.size⟩, reply.cache)
  | .forget driver schema table =>
    let rest := c.forget ((driver.map Engine.driverName).getD "") schema table
    (⟨none, rest.size⟩, rest)

/-- What can be told about calls, one after the other. -/
def reports (c : ColumnCache) : List CacheCall → List CacheReport
  | [] => []
  | call :: rest => (c.take call).1 :: (c.take call).2.reports rest

end ColumnCache

/-! ### Lists by recency -/

/-- A table as far as the cache tells tables apart: the engine, and the names of the schema
    and the table in lower case. -/
structure TableKey where
  engine : Engine
  schema : String
  table : String
deriving DecidableEq

/-- The key of a table. -/
def TableKey.of (e : Engine) (schema table : String) : TableKey :=
  ⟨e, Text.lowercase schema, Text.lowercase table⟩

/-- The tables with their columns, least recently used first. -/
abbrev Recency := List (TableKey × List Value)

namespace Recency

/-- The list without a table. -/
def drop (l : Recency) (k : TableKey) : Recency :=
  l.filter (·.1 ≠ k)

/-- The list with one more table, which is used last. When there is no room for it the table
    that was not used for the longest time goes. -/
def insert (room : Nat) (l : Recency) (k : TableKey) (columns : List Value) : Recency :=
  (if l.length < room then l else l.tail) ++ [(k, columns)]

/-- What can be told about a call, and the list after it. A table that is found becomes the
    most recent one, and one that could not be loaded changes nothing. -/
def take (room : Nat) (l : Recency) : CacheCall → CacheReport × Recency
  | .columns e schema table load =>
    let k := TableKey.of e schema table
    match l.lookup k, load with
    | some columns, _ =>
      let used := l.drop k ++ [(k, columns)]
      (⟨some (.ok columns, false), used.length⟩, used)
    | none, .error f => (⟨some (.error f, true), l.length⟩, l)
    | none, .ok columns =>
      let more := l.insert room k columns
      (⟨some (.ok columns, true), more.length⟩, more)
  | .forget driver schema table =>
    let rest := match driver with
      | none => []
      | some e => if table = "" then l.filter (·.1.engine ≠ e) else l.drop (.of e schema table)
    (⟨none, rest.length⟩, rest)

/-- What can be told about calls, one after the other. -/
def reports (room : Nat) (l : Recency) : List CacheCall → List CacheReport
  | [] => []
  | call :: rest => (l.take room call).1 :: Recency.reports room (l.take room call).2 rest

/-- The list after calls, one after the other. -/
def after (room : Nat) (l : Recency) (calls : List CacheCall) : Recency :=
  calls.foldl (fun l call => (l.take room call).2) l

/-- There are no more tables than there is room for, and none of them twice. -/
structure Fits (room : Nat) (l : Recency) : Prop where
  bounded : l.length ≤ room
  distinct : (l.map (·.1)).Nodup

/-! ### What a list by recency keeps -/

variable {room : Nat} {l : Recency} {k : TableKey}

/-- A table that is not found is not there to be dropped. -/
theorem drop_of_lookup_none (hmiss : l.lookup k = none) : l.drop k = l := by
  rw [drop, List.filter_eq_self]
  intro entry hmem
  rw [decide_eq_true_eq]
  exact ne_of_lookup_none hmiss entry hmem

/-- A table that is found is there, so that dropping it leaves less. -/
theorem length_drop_lt {columns : List Value} (hfound : l.lookup k = some columns) :
    (l.drop k).length < l.length := by
  have hmem : (k, columns) ∈ l := mem_of_lookup hfound
  exact List.length_filter_lt_length_iff_exists.mpr ⟨_, hmem, by simp⟩

namespace Fits

theorem sublist (h : l.Fits room) {m : Recency} (hsub : m.Sublist l) : m.Fits room where
  bounded := Nat.le_trans hsub.length_le h.bounded
  distinct := (hsub.map _).nodup h.distinct

/-- A table that was not there fits behind the others, if there is room for it. -/
theorem append (h : l.Fits room) (hroom : l.length < room) (hnew : ∀ entry ∈ l, entry.1 ≠ k)
    (columns : List Value) : Fits room (l ++ [(k, columns)]) where
  bounded := by rw [List.length_append]; exact hroom
  distinct := nodup_keys_append h.distinct hnew columns

theorem insert (h : l.Fits room) (hroom : 1 ≤ room) (hmiss : l.lookup k = none)
    (columns : List Value) : (l.insert room k columns).Fits room := by
  unfold Recency.insert
  split
  · rename_i hlt
    exact h.append hlt (ne_of_lookup_none hmiss) columns
  · -- The list is full, and the oldest table makes room.
    have hlength : l.tail.length < room := by
      have hbounded := h.bounded
      rw [List.length_tail]
      omega
    exact (h.sublist (List.tail_sublist l)).append hlength
      (fun entry hmem => ne_of_lookup_none hmiss entry (List.mem_of_mem_tail hmem)) columns

/-- No call brings in a table twice, or one too many. -/
theorem take (h : l.Fits room) (hroom : 1 ≤ room) (call : CacheCall) :
    (l.take room call).2.Fits room := by
  cases call with
  | columns e schema table load =>
      unfold Recency.take
      dsimp only
      split
      · rename_i columns hfound
        have hlength := Nat.lt_of_lt_of_le (length_drop_lt hfound) h.bounded
        refine (h.sublist List.filter_sublist).append hlength ?_ columns
        intro entry hmem
        exact of_decide_eq_true (List.mem_filter.mp hmem).2
      · exact h
      · rename_i columns hmiss
        exact h.insert hroom hmiss columns
  | forget driver schema table =>
      unfold Recency.take
      dsimp only
      split
      · exact h.sublist (List.nil_sublist l)
      · split <;> exact h.sublist List.filter_sublist

/-- Nor do any number of calls. -/
theorem after (h : l.Fits room) (hroom : 1 ≤ room) (calls : List CacheCall) :
    (l.after room calls).Fits room := by
  induction calls generalizing l with
  | nil => exact h
  | cons call rest ih => exact ih (h.take hroom call)

end Fits

end Recency

/-! ### Texts of keys -/

theorem colon_not_mem_driverName (e : Engine) : ':' ∉ e.driverName.toList := by
  cases e <;> decide

theorem driverName_ne_empty (e : Engine) : e.driverName ≠ "" := by
  cases e <;> decide

theorem driverName_inj {e f : Engine} (h : e.driverName.toList = f.driverName.toList) :
    e = f := by
  -- An engine is found by the name of its driver, so one name finds one engine.
  have hname : e.driverName = f.driverName := String.toList_injective h
  have hfound := Engine.ofAlias?_driverName e
  rw [hname, Engine.ofAlias?_driverName f] at hfound
  exact (Option.some.inj hfound).symm

namespace TableKey

/-- The text under which the cache keeps the table. -/
def text (k : TableKey) : String :=
  k.engine.driverName ++ ":" ++ k.schema ++ ":" ++ k.table

/-- The names hold no colon. -/
structure Plain (k : TableKey) : Prop where
  schema : ':' ∉ k.schema.toList
  table : ':' ∉ k.table.toList

theorem key_eq_text (e : Engine) (schema table : String) :
    ColumnCache.key e.driverName schema table = (TableKey.of e schema table).text :=
  rfl

/-- Lower case brings no colon into a name. -/
theorem plain_of {e : Engine} {schema table : String} (hschema : ':' ∉ schema.toList)
    (htable : ':' ∉ table.toList) : (TableKey.of e schema table).Plain where
  schema := by
    rw [TableKey.of, Text.lowercase, String.toList_ofList]
    exact fun hmem => hschema (colon_mem_of_mem_lower hmem)
  table := by
    rw [TableKey.of, Text.lowercase, Text.lowercase, String.toList_ofList]
    exact fun hmem => htable (colon_mem_of_mem_lower hmem)

theorem toList_text (k : TableKey) :
    k.text.toList =
      k.engine.driverName.toList ++ ':' :: (k.schema.toList ++ ':' :: k.table.toList) := by
  have hcolon : ":".toList = [':'] := rfl
  simp only [text, String.toList_append, hcolon, List.append_assoc, List.cons_append,
    List.nil_append]

/-- Tables with the same text are the same: the text falls apart at its first colon into the
    driver and the rest, and the rest at its only one. -/
theorem text_inj {k l : TableKey} (hk : k.Plain) (hl : l.Plain) (h : k.text = l.text) :
    k = l := by
  have hlist := congrArg String.toList h
  rw [toList_text, toList_text] at hlist
  obtain ⟨hdriver, hrest⟩ := append_mark_inj (colon_not_mem_driverName _)
    (colon_not_mem_driverName _) hlist
  obtain ⟨hschema, htable⟩ := append_mark_inj hk.schema hl.schema hrest
  have hengine : k.engine = l.engine := driverName_inj hdriver
  have hs : k.schema = l.schema := String.toList_injective hschema
  have ht : k.table = l.table := String.toList_injective htable
  calc k = ⟨k.engine, k.schema, k.table⟩ := rfl
    _ = ⟨l.engine, l.schema, l.table⟩ := by rw [hengine, hs, ht]
    _ = l := rfl

/-- A text begins with a driver and a colon exactly when that is its driver. -/
theorem isPrefixOf_text (e : Engine) (k : TableKey) :
    (e.driverName ++ ":").toList.isPrefixOf k.text.toList = decide (k.engine = e) := by
  have hcolon : ":".toList = [':'] := rfl
  rw [toList_text, String.toList_append, hcolon, Bool.eq_iff_iff, List.isPrefixOf_iff_prefix,
    decide_eq_true_eq]
  constructor
  · rintro ⟨rest, hrest⟩
    rw [List.append_assoc, List.singleton_append] at hrest
    exact driverName_inj (append_mark_inj (colon_not_mem_driverName _)
      (colon_not_mem_driverName _) hrest).1.symm
  · rintro rfl
    exact ⟨_, by rw [List.append_assoc, List.singleton_append]⟩

end TableKey

/-! ### A cache and its list -/

/-- A cache that holds the same as a list by recency, under the texts of its tables. -/
structure Mirrors (room : Nat) (c : ColumnCache) (l : Recency) : Prop where
  capacity : c.capacity = room
  entries : c.entries = l.map fun entry => (entry.1.text, entry.2)
  plain : ∀ entry ∈ l, entry.1.Plain

namespace Mirrors

variable {room : Nat} {c : ColumnCache} {l : Recency} {k : TableKey}

theorem size_eq (h : Mirrors room c l) : c.size = l.length := by
  rw [ColumnCache.size, h.entries, List.length_map]

theorem empty (room : Nat) : Mirrors room { capacity := room } [] :=
  ⟨rfl, rfl, fun _ hmem => absurd hmem List.not_mem_nil⟩

/-- Whatever is forgotten on both sides, they go on holding the same. -/
theorem filter (h : Mirrors room c l) {keep : String × List Value → Bool}
    {keep' : TableKey × List Value → Bool}
    (hkeep : ∀ entry ∈ l, keep (entry.1.text, entry.2) = keep' entry) :
    Mirrors room { c with entries := c.entries.filter keep } (l.filter keep') where
  capacity := h.capacity
  entries := by
    rw [h.entries, List.filter_map]
    exact congrArg _ (List.filter_congr hkeep)
  plain entry hmem := h.plain entry (List.mem_of_mem_filter hmem)

/-- A text is that of a table exactly when it is the same table. -/
theorem text_ne_iff (h : Mirrors room c l) (hk : k.Plain) :
    ∀ entry ∈ l, (entry.1.text != k.text) = decide (entry.1 ≠ k) := by
  intro entry hmem
  rw [Bool.eq_iff_iff, bne_iff_ne, decide_eq_true_eq]
  exact not_congr ⟨TableKey.text_inj (h.plain entry hmem) hk, congrArg TableKey.text⟩

theorem without (h : Mirrors room c l) (hk : k.Plain) :
    Mirrors room { c with entries := ColumnCache.without k.text c.entries } (l.drop k) :=
  h.filter (h.text_ne_iff hk)

/-- A table is found on both sides or on neither. -/
theorem lookup (h : Mirrors room c l) (hk : k.Plain) :
    c.entries.lookup k.text = l.lookup k := by
  have hplain := h.plain
  rw [h.entries]
  clear h
  induction l with
  | nil => rfl
  | cons entry rest ih =>
      have hrest := ih fun other hmem => hplain other (List.mem_cons_of_mem entry hmem)
      have hentry : (k.text == entry.1.text) = (k == entry.1) := by
        rw [Bool.eq_iff_iff, beq_iff_eq, beq_iff_eq]
        exact ⟨TableKey.text_inj hk (hplain entry List.mem_cons_self), congrArg TableKey.text⟩
      rw [List.map_cons, List.lookup_cons, List.lookup_cons, hentry, hrest]

/-- One more table can be held on both sides. -/
theorem append (h : Mirrors room c l) (hk : k.Plain) (columns : List Value) :
    Mirrors room { c with entries := c.entries ++ [(k.text, columns)] }
      (l ++ [(k, columns)]) where
  capacity := h.capacity
  entries := by rw [h.entries, List.map_append]; rfl
  plain entry hmem := by
    rcases List.mem_append.mp hmem with hold | hnew
    · exact h.plain entry hold
    · rw [List.mem_singleton.mp hnew]
      exact hk

/-- Storing a table that is not held makes room for it in the same way on both sides. -/
theorem store (h : Mirrors room c l) (hroom : 1 ≤ room) (hfits : l.Fits room) (hk : k.Plain)
    (hmiss : l.lookup k = none) (columns : List Value) :
    ∃ d, c.store k.text columns = .ok d ∧ Mirrors room d (l.insert room k columns) := by
  have hcapacity : ¬c.capacity < 1 := by rw [h.capacity]; omega
  have hothers : ColumnCache.without k.text c.entries = c.entries := by
    have hwithout := (h.without hk).entries
    rw [Recency.drop_of_lookup_none hmiss, ← h.entries] at hwithout
    exact hwithout
  have hlength : c.entries.length = l.length := h.size_eq
  have hrest : Mirrors room
      { c with entries := c.entries.drop (c.entries.length + 1 - c.capacity.toNat) }
      (if l.length < room then l else l.tail) := by
    refine ⟨h.capacity, ?_, fun entry hmem => h.plain entry ?_⟩
    · rw [hlength, h.capacity, Int.toNat_natCast, h.entries, ← List.map_drop,
        drop_eq_of_room hfits.bounded]
    · split at hmem
      · exact hmem
      · exact List.mem_of_mem_tail hmem
  exact ⟨_, by rw [ColumnCache.store, if_neg hcapacity, hothers], hrest.append hk columns⟩

/-- Asking for columns comes out alike. -/
theorem ask (h : Mirrors room c l) (hroom : 1 ≤ room) (hfits : l.Fits room) {e : Engine}
    {schema table : String} (hk : (TableKey.of e schema table).Plain)
    (load : Outcome (List Value)) :
    (c.take (.columns e schema table load)).1 = (l.take room (.columns e schema table load)).1 ∧
      Mirrors room (c.take (.columns e schema table load)).2
        (l.take room (.columns e schema table load)).2 := by
  have hlookup := h.lookup hk
  simp only [ColumnCache.take, Recency.take, TableKey.key_eq_text, ColumnCache.ask,
    ColumnCache.hit?, hlookup]
  rcases hfound : l.lookup (TableKey.of e schema table) with _ | columns
  · cases load with
    | error f =>
        -- Nothing was loaded, and nothing changes.
        exact ⟨by rw [Option.map_none, h.size_eq], h⟩
    | ok columns =>
        obtain ⟨d, hd, hmirrors⟩ := h.store hroom hfits hk hfound columns
        simp only [Option.map_none, hd]
        exact ⟨by rw [hmirrors.size_eq], hmirrors⟩
  · have hused : Mirrors room
        { c with entries := ColumnCache.without (TableKey.of e schema table).text c.entries ++
          [((TableKey.of e schema table).text, columns)] }
        (l.drop (.of e schema table) ++ [(.of e schema table, columns)]) :=
      (h.without hk).append hk columns
    exact ⟨by simp only [Option.map_some, hused.size_eq], hused⟩

/-- So does forgetting. -/
theorem forget (h : Mirrors room c l) (driver : Option Engine) {schema table : String}
    (hk : ∀ e, (TableKey.of e schema table).Plain) :
    Mirrors room (c.take (.forget driver schema table)).2
      (l.take room (.forget driver schema table)).2 := by
  cases driver with
  | none =>
      -- No driver is named, so nothing is left on either side.
      simp only [ColumnCache.take, Recency.take, Option.map_none, Option.getD_none,
        ColumnCache.forget, if_true]
      exact ⟨h.capacity, rfl, fun _ hmem => absurd hmem List.not_mem_nil⟩
  | some e =>
      simp only [ColumnCache.take, Recency.take, Option.map_some, Option.getD_some,
        ColumnCache.forget, if_neg (driverName_ne_empty e)]
      by_cases htable : table = ""
      · simp only [if_pos htable]
        refine h.filter fun entry _ => ?_
        rw [TableKey.isPrefixOf_text, decide_not]
      · simp only [if_neg htable, TableKey.key_eq_text]
        exact h.without (hk e)

/-- A call is answered alike, and leaves the two holding the same. -/
theorem take (h : Mirrors room c l) (hroom : 1 ≤ room) (hfits : l.Fits room) {call : CacheCall}
    (hcall : call.Plain) :
    (c.take call).1 = (l.take room call).1 ∧ Mirrors room (c.take call).2 (l.take room call).2 := by
  cases call with
  | columns e schema table load =>
      exact h.ask hroom hfits (TableKey.plain_of hcall.1 hcall.2) load
  | forget driver schema table =>
      have hrest := h.forget driver fun e => TableKey.plain_of hcall.1 hcall.2
      exact ⟨congrArg (CacheReport.mk none) hrest.size_eq, hrest⟩

/-- So are any number of calls, by induction on them. -/
theorem reports (h : Mirrors room c l) (hroom : 1 ≤ room) (hfits : l.Fits room)
    {calls : List CacheCall} (hcalls : ∀ call ∈ calls, call.Plain) :
    c.reports calls = l.reports room calls := by
  induction calls generalizing c l with
  | nil => rfl
  | cons call rest ih =>
      obtain ⟨hreport, hnext⟩ := h.take hroom hfits (hcalls call List.mem_cons_self)
      have hrest := ih hnext (hfits.take hroom call) fun other hmem =>
        hcalls other (List.mem_cons_of_mem call hmem)
      rw [ColumnCache.reports, Recency.reports, hreport, hrest]

end Mirrors

/-- A cache with room for at least one list cannot be told from a list by recency: every call
    is answered alike, asks the loader or not, and leaves as many lists. The list by recency
    meanwhile holds no table twice and no more tables than there is room for. -/
theorem reports_eq_recency {room : Nat} (hroom : 1 ≤ room) {calls : List CacheCall}
    (hcalls : ∀ call ∈ calls, call.Plain) :
    ({ capacity := room } : ColumnCache).reports calls = Recency.reports room [] calls ∧
      (Recency.after room [] calls).Fits room := by
  have hempty : Recency.Fits room [] := ⟨Nat.zero_le room, List.nodup_nil⟩
  exact ⟨(Mirrors.empty room).reports hroom hempty hcalls, hempty.after hroom calls⟩

/-- Calls on a cache with room for two lists: the second table is spelled otherwise when it is
    asked for again, the third one pushes out the first, a load fails, and at last the lists
    of one driver are forgotten. -/
def crowdedCalls : List CacheCall := [
  .columns .oracle "HR" "Jobs" (.ok [.text "ID"]),
  .columns .postgres "public" "ORDERS" (.ok [.text "id"]),
  .columns .postgres "Public" "orders" (.error (.raised "not asked")),
  .columns .sqlite "" "orders" (.ok [.text "rowid"]),
  .columns .oracle "HR" "Jobs" (.error (.raised "gone")),
  .forget (some .postgres) "" ""]

/-- The first table had to be loaded again, and one list is left in the end. -/
theorem reports_crowded :
    (∀ call ∈ crowdedCalls, call.Plain) ∧
      ({ capacity := (2 : Nat) } : ColumnCache).reports crowdedCalls =
        Recency.reports 2 [] crowdedCalls ∧
      ({ capacity := (2 : Nat) } : ColumnCache).reports crowdedCalls = [
        ⟨some (.ok [.text "ID"], true), 1⟩, ⟨some (.ok [.text "id"], true), 2⟩,
        ⟨some (.ok [.text "id"], false), 2⟩, ⟨some (.ok [.text "rowid"], true), 2⟩,
        ⟨some (.error (.raised "gone"), true), 2⟩, ⟨none, 1⟩] := by
  have hplain : ∀ call ∈ crowdedCalls, call.Plain := by decide
  exact ⟨hplain, (reports_eq_recency (by decide) hplain).1, rfl⟩

end SqlCatalog
