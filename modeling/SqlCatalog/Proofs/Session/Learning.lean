import SqlCatalog.Proofs.Basic
import SqlCatalog.Proofs.Session.History
import SqlCatalog.Proofs.Session.Questions

/-!
# What a Call Learns

A call of the reader leaves the datasource as it is, but for two things that it may learn on
the way: the schema that names without one belong to, and the columns of a table. Both are
learnt from the answer to a query and from nothing else, so a call that breaks down half-way
can only leave what the queries before that have told. This is to be seen query by query, and
`Taught` says it of the queries that an inquiry has run so far.

The cache has an order besides its entries, and a bound. Asking it for columns brings the
entry to the end that is used, or one more entry, for which the first one makes room when the
cache is full. That this is all, and that one call does it at most once, hangs on two things.
The cache holds no key twice and no more than its bound, which every history keeps (`Fits`);
and a call asks for columns once at most, which is told of all methods beforehand. Time plays no
part: as long as the call goes on, and in the history before it, no entry of the cache is past
its time.

## Main definitions

* `ColumnCache.Fits`: A cache within its bound, without doubles.
* `ColumnCache.Change`: What one question for columns can do to a cache.
* `Run.TellsSchema`, `Run.TellsColumns`: What the answer to a query tells.
* `Context.Taught`: What a datasource has learnt from some queries.

## Theorems

* `ColumnCache.Change.fits`: A cache stays within its bound.
* `Inquiry.taught_exec`: What an inquiry leaves was told by its queries.
* `Session.fits_after`: Every history keeps the cache within its bound.
* `call_frame`: What a call can change of a datasource.
-/

namespace SqlCatalog

/-! ### One change of the cache -/

namespace ColumnCache

/-- The cache has room for a list, and holds no more than that and no key twice. -/
structure Fits (c : ColumnCache) : Prop where
  room : 1 ≤ c.capacity
  bounded : (c.size : Int) ≤ c.capacity
  distinct : (c.entries.map Prod.fst).Nodup

/-- What one question for columns can do to a cache, given the lists that were told: nothing,
    make an entry the most recent one, or bring in a list under a new key. When the cache is
    full the least recent entry makes room for it. -/
inductive Change (c : ColumnCache) (told : String → List Value → Prop) : ColumnCache → Prop
  | kept : Change c told c
  | used {key : String} {columns : List Value} (found : (key, columns) ∈ c.entries) :
      Change c told { c with entries := without key c.entries ++ [(key, columns)] }
  | loaded {key : String} {columns : List Value} (new : ∀ entry ∈ c.entries, entry.1 ≠ key)
      (hload : told key columns) :
      Change c told { c with
        entries :=
          (if (c.size : Int) < c.capacity then c.entries else c.entries.tail) ++
            [(key, columns)] }

variable {c d : ColumnCache} {told : String → List Value → Prop}

theorem fits_empty (h : 1 ≤ c.capacity) : c.clear.Fits :=
  ⟨h, by simp only [clear, size, List.length_nil]; omega, List.nodup_nil⟩

theorem without_eq_of_new {k : String} {entries : List (String × List Value)}
    (hnew : ∀ entry ∈ entries, entry.1 ≠ k) : without k entries = entries :=
  List.filter_eq_self.mpr fun entry hmem => bne_iff_ne.mpr (hnew entry hmem)

/-- Without doubles, an entry is put elsewhere by taking out its key. -/
theorem perm_without {k : String} {columns : List Value} {entries : List (String × List Value)}
    (hdistinct : (entries.map Prod.fst).Nodup) (hfound : (k, columns) ∈ entries) :
    (without k entries ++ [(k, columns)]).Perm entries := by
  obtain ⟨before, rest, rfl⟩ := List.append_of_mem hfound
  -- No other entry has the key, so the rest is as it was.
  have hfirst := ((List.perm_middle.map Prod.fst).nodup_iff.mp hdistinct)
  rw [List.map_cons, List.nodup_cons] at hfirst
  have hothers : ∀ entry ∈ before ++ rest, entry.1 ≠ k := fun entry hmem heq =>
    hfirst.1 (List.mem_map.mpr ⟨entry, hmem, heq⟩)
  have hwithout : without k (before ++ (k, columns) :: rest) = before ++ rest := by
    rw [without, List.filter_append, List.filter_cons_of_neg (by simp), ← List.filter_append]
    exact without_eq_of_new hothers
  rw [hwithout, List.append_assoc]
  exact List.perm_append_comm.append_left before

namespace Change

theorem mono {more : String → List Value → Prop} (h : c.Change told d)
    (hsub : ∀ key columns, told key columns → more key columns) : c.Change more d := by
  cases h with
  | kept => exact .kept
  | used found => exact .used found
  | loaded new hload => exact .loaded new (hsub _ _ hload)

theorem perm_of_untold (h : c.Change told d) (hc : c.Fits)
    (huntold : ∀ key columns, ¬told key columns) : d.entries.Perm c.entries := by
  cases h with
  | kept => exact .refl _
  | used found => exact perm_without hc.distinct found
  | loaded new hload => exact absurd hload (huntold _ _)

/-- A cache stays within its bound. -/
theorem fits (h : c.Change told d) (hc : c.Fits) : d.Fits := by
  cases h with
  | kept => exact hc
  | used found =>
      have hperm := perm_without hc.distinct found
      refine ⟨hc.room, ?_, (hperm.map Prod.fst).nodup_iff.mpr hc.distinct⟩
      rw [size, hperm.length_eq]
      exact hc.bounded
  | loaded new hload =>
      rename_i key columns
      have hroom := hc.room
      have hbounded := hc.bounded
      split
      · rename_i hlt
        refine ⟨hroom, ?_, nodup_keys_append hc.distinct new columns⟩
        simp only [size, List.length_append, List.length_singleton] at hlt ⊢
        omega
      · -- The cache is full, and the least recent list makes room.
        have hrest := (List.tail_sublist c.entries).map Prod.fst
        refine ⟨hroom, ?_, nodup_keys_append (hrest.nodup hc.distinct)
          (fun entry hmem => new entry (List.mem_of_mem_tail hmem)) columns⟩
        simp only [size, List.length_append, List.length_tail, List.length_singleton]
          at hbounded ⊢
        omega

end Change

/-- A list that is found becomes the most recent one. -/
theorem change_of_hit {key : String} {columns : List Value}
    (h : c.hit? key = some (columns, d)) : c.Change told d := by
  rw [hit?, Option.map_eq_some_iff] at h
  obtain ⟨found, hlookup, heq⟩ := h
  obtain ⟨rfl, rfl⟩ := Prod.mk.inj heq
  exact .used (mem_of_lookup hlookup)

/-- A list that is not found is brought in once it is loaded. -/
theorem change_of_miss (hc : c.Fits) {key : String} (hmiss : c.hit? key = none)
    {load : Outcome (List Value)} (hload : ∀ columns, load = .ok columns → told key columns) :
    c.Change told (c.ask key load).cache := by
  cases load with
  | error f =>
      rw [ask_of_failure hmiss]
      exact .kept
  | ok columns =>
      have hroom : ¬c.capacity < 1 := by have := hc.room; omega
      have hnew : ∀ entry ∈ c.entries, entry.1 ≠ key :=
        ne_of_lookup_none (by rwa [hit?, Option.map_eq_none_iff] at hmiss)
      have hbounded : c.entries.length ≤ c.capacity.toNat := by
        have hb := hc.bounded
        rw [size] at hb
        omega
      have hfull : c.entries.length < c.capacity.toNat ↔ (c.size : Int) < c.capacity := by
        rw [size]
        omega
      have hchange := Change.loaded hnew (hload columns rfl)
      simp only [ask, hmiss, store, if_neg hroom, without_eq_of_new hnew,
        drop_eq_of_room hbounded, hfull]
      exact hchange

end ColumnCache

/-! ### What a query tells -/

namespace Run

variable {σ : Type} [Server σ]

/-- The query for the current schema was answered, and this is the schema it named. -/
def TellsSchema (r : Run σ) (schema : String) : Prop :=
  ∃ c e q rows, r.session.requireConnection = .ok (c, e) ∧
    Build.currentSchema e = .ok (some q) ∧
    r.request = ⟨q.sql e, q.args, "resolving current schema", none⟩ ∧
    (r.session.run r.request).1 = .ok rows ∧ Session.namedSchema rows = .ok schema

/-- The query for the columns of a table was answered, and these are the columns it listed for
    the table that has the key. -/
def TellsColumns (r : Run σ) (key : String) (columns : List Value) : Prop :=
  ∃ e schema table q rows, Session.columnKey e schema table = .ok key ∧
    Build.getTableSchemaFull e table (.text schema) = .ok (some q) ∧
    r.request = ⟨q.sql e, q.args, "getting columns", none⟩ ∧
    (r.session.run r.request).1 = .ok rows ∧ Catalog.columnNames e rows.rows = .ok columns

end Run

/-- What a datasource has learnt from some queries with so many questions for columns, one at
    most: a schema where none was known, and what one question does to the cache. -/
structure Context.Taught {σ : Type} [Server σ] (runs : List (Run σ)) (questions : Nat)
    (c d : Context) : Prop where
  schema : d.currentSchema = c.currentSchema ∨
    c.currentSchema = none ∧
      ∃ r ∈ runs, ∃ schema, r.TellsSchema schema ∧ d.currentSchema = some schema
  cache : c.cache.Change (fun key columns => ∃ r ∈ runs, r.TellsColumns key columns) d.cache
  idle : questions = 0 → d.cache = c.cache

namespace Context.Taught

variable {σ : Type} [Server σ] {runs more : List (Run σ)} {m n : Nat} {c d e : Context}

theorem refl (runs : List (Run σ)) (n : Nat) (c : Context) : Taught runs n c c :=
  ⟨Or.inl rfl, .kept, fun _ => rfl⟩

theorem mono (h : Taught runs m c d) (hsub : runs ⊆ more) (hle : m ≤ n) :
    Taught more n c d where
  schema := h.schema.imp_right fun ⟨hnone, r, hr, hschema⟩ => ⟨hnone, r, hsub hr, hschema⟩
  cache := h.cache.mono fun _ _ ⟨r, hr, hcolumns⟩ => ⟨r, hsub hr, hcolumns⟩
  idle hzero := h.idle (by omega)

/-- What is learnt adds up, since a schema is learnt once, and columns are asked for once. -/
theorem append (h : Taught runs m c d) (h' : Taught more n d e) (hone : m + n ≤ 1) :
    Taught (runs ++ more) (m + n) c e where
  schema := by
    rcases h.schema with hsame | ⟨hnone, r, hr, schema, htells, hknown⟩
    · rw [← hsame]
      exact (h'.mono (List.subset_append_right runs more) Nat.le.refl).schema
    · rcases h'.schema with hsame | ⟨hunknown, -⟩
      · exact Or.inr ⟨hnone, r, List.mem_append_left more hr, schema, htells, hsame.trans hknown⟩
      · -- A schema that was learnt before is not learnt again.
        exact absurd (hknown.symm.trans hunknown) (by simp)
  cache := by
    -- One of the two asked nothing, and left the cache as it was.
    rcases Nat.eq_zero_or_pos m with hm | hm
    · rw [← h.idle hm]
      exact (h'.mono (List.subset_append_right runs more) Nat.le.refl).cache
    · rw [h'.idle (by omega)]
      exact (h.mono (List.subset_append_left runs more) Nat.le.refl).cache
  idle hzero := (h'.idle (by omega)).trans (h.idle (by omega))

end Context.Taught

namespace Session

variable {σ : Type} [Server σ]

open Context (Taught)

theorem taught_run (q : Request) (runs : List (Run σ)) (s : Session σ) :
    Taught runs 0 s.context (s.run q).2.context := by
  rw [context_run]
  exact .refl _ _ _

/-- The current schema is learnt from the answer to the query for it. -/
theorem taught_currentSchema (s : Session σ) :
    Taught s.currentSchemaRuns 0 s.context s.askCurrentSchema.2.context := by
  unfold askCurrentSchema currentSchemaRuns
  rcases hschema : s.context.currentSchema with _ | schema
  · rcases hactive : s.requireConnection with f | ⟨c, e⟩
    · exact .refl _ _ _
    · dsimp only
      rcases hbuild : Build.currentSchema e with f | _ | q
      · exact .refl _ _ _
      · exact .refl _ _ _
      · dsimp only
        have hcontext := context_run ⟨q.sql e, q.args, "resolving current schema", none⟩ s
        rcases hrun : s.run ⟨q.sql e, q.args, "resolving current schema", none⟩ with ⟨f | rows, t⟩
        · rw [hrun] at hcontext
          exact hcontext ▸ .refl _ _ _
        · rw [hrun] at hcontext
          dsimp only at hcontext ⊢
          rcases hnamed : namedSchema rows with f | schema
          · exact hcontext ▸ .refl _ _ _
          · -- The schema is named, and it is remembered now.
            have htells : (Run.mk ⟨q.sql e, q.args, "resolving current schema", none⟩
                s).TellsSchema schema :=
              ⟨c, e, q, rows, hactive, hbuild, rfl, by rw [hrun], hnamed⟩
            have hcache : (t.rememberSchema (some schema)).context.cache = s.context.cache := by
              rw [← hcontext]
              rfl
            refine ⟨Or.inr ⟨hschema, _, List.mem_singleton_self _, schema, htells, rfl⟩, ?_,
              fun _ => hcache⟩
            dsimp only
            rw [hcache]
            exact .kept
  · exact .refl _ _ _

/-- The columns of a table are learnt from the answer to the query for them. -/
theorem taught_columns (e : Engine) (schema : String) (table : Value) {s : Session σ}
    (hs : s.context.cache.Fits) :
    Taught (s.columnRuns e schema table) 1 s.context
      (s.askColumns e schema table).2.context := by
  unfold askColumns columnRuns
  rcases hkey : columnKey e schema table with f | key
  · exact .refl _ _ _
  · dsimp only
    rcases hhit : s.context.cache.hit? key with _ | ⟨columns, cache⟩
    · -- What the load comes to is all that the cache depends on.
      have hlearn {runs : List (Run σ)} {t : Session σ} {load : Outcome (List Value)}
          (hcontext : t.context = s.context)
          (hload : ∀ columns, load = .ok columns → ∃ r ∈ runs, r.TellsColumns key columns) :
          Taught runs 1 s.context
            (t.withCache (t.context.cache.ask key load).cache).context := by
        rw [withCache, hcontext]
        exact ⟨Or.inl rfl, ColumnCache.change_of_miss hs hhit hload, by simp⟩
      unfold loadColumns
      rcases hbuild : Build.getTableSchemaFull e table (.text schema) with f | _ | q
      · exact hlearn rfl (by simp)
      · exact hlearn rfl (by simp [refuse])
      · dsimp only
        have hcontext := context_run ⟨q.sql e, q.args, "getting columns", none⟩ s
        rcases hrun : s.run ⟨q.sql e, q.args, "getting columns", none⟩ with ⟨f | rows, t⟩
        · rw [hrun] at hcontext
          exact hlearn hcontext (by simp)
        · rw [hrun] at hcontext
          exact hlearn hcontext fun columns hcolumns =>
            ⟨_, List.mem_singleton_self _, e, schema, table, q, rows, hkey, hbuild, rfl,
              by rw [hrun], hcolumns⟩
    · exact ⟨Or.inl rfl, ColumnCache.change_of_hit hhit, by simp⟩

end Session

/-! ### What a call tells -/

namespace Inquiry

variable {σ α : Type} [Server σ]

open Context (Taught)

/-- What an inquiry leaves was told by its queries, by induction on its questions. -/
theorem taught_exec (i : Inquiry α) {n : Nat} (hasks : i.AsksColumns n) (hone : n ≤ 1)
    {s : Session σ} (hs : s.context.cache.Fits) :
    Taught (i.runs s) n s.context (i.exec s).2.context := by
  -- Both the bound on the questions left and the cache's fitting pass on to the question after.
  induction i generalizing s n with
  | done outcome => exact .refl _ _ _
  | run q next ih =>
      have hfirst := s.taught_run q [⟨q, s⟩]
      rw [exec, runs]
      rcases heq : s.run q with ⟨f | r, t⟩ <;> rw [heq] at hfirst
      · exact hfirst.mono (List.subset_append_left _ _) (Nat.zero_le n)
      · have hrest := ih r (hasks r) hone (hfirst.cache.fits hs)
        exact (hfirst.append hrest (by omega)).mono (List.Subset.refl _) (by omega)
  | currentSchema next ih =>
      have hfirst := s.taught_currentSchema
      rw [exec, runs]
      rcases heq : s.askCurrentSchema with ⟨f | schema, t⟩ <;> rw [heq] at hfirst
      · exact hfirst.mono (List.subset_append_left _ _) (Nat.zero_le n)
      · have hrest := ih schema (hasks schema) hone (hfirst.cache.fits hs)
        exact (hfirst.append hrest (by omega)).mono (List.Subset.refl _) (by omega)
  | columns e schema table next ih =>
      obtain ⟨m, rfl, hnext⟩ := hasks
      have hfirst := Session.taught_columns e schema table hs
      rw [exec, runs]
      rcases heq : s.askColumns e schema table with ⟨f | columns, t⟩ <;> rw [heq] at hfirst
      · exact hfirst.mono (List.subset_append_left _ _) (by omega)
      · have hrest := ih columns (hnext columns) (by omega) (hfirst.cache.fits hs)
        exact (hfirst.append hrest (by omega)).mono (List.Subset.refl _) (by omega)

end Inquiry

/-- A query that failed has told nothing. -/
theorem Run.untold_of_error {σ : Type} [Server σ] {r : Run σ} {f : Failure}
    (hfails : (r.session.run r.request).1 = .error f) :
    (∀ schema, ¬r.TellsSchema schema) ∧ ∀ key columns, ¬r.TellsColumns key columns := by
  constructor
  · rintro schema ⟨c, e, q, rows, -, -, -, hrows, -⟩
    exact absurd (hfails.symm.trans hrows) (by simp)
  · rintro key columns ⟨e, schema, table, q, rows, -, -, -, hrows, -⟩
    exact absurd (hfails.symm.trans hrows) (by simp)

/-! ### Every state of a session -/

namespace Session

/-- What a call leaves in the context was told by its queries. -/
theorem taught_call {σ : Type} [Server σ] {s : Session σ} (hs : s.context.cache.Fits)
    (m : Reader.Method) (args : Arguments) :
    Context.Taught (s.callRuns m args) 1 s.context (s.call m args).2.context := by
  obtain ⟨-, -, hcontext⟩ := s.call_eq_exec m args
  rw [hcontext]
  exact (m.inquiry s.frame args).taught_exec (m.asks s.frame args).asksColumns Nat.le.refl hs

theorem fits_fresh (override : String) (limits : Limits) (server : Script) :
    (fresh override limits server).context.cache.Fits :=
  ColumnCache.fits_empty (c := {}) (by decide)

theorem fits_take {s : Session Script} (hs : s.context.cache.Fits) (step : Step) :
    (s.take step).2.context.cache.Fits := by
  cases step with
  | configure driver connection schema =>
      dsimp only [take]
      rcases hparse : Engine.parse driver with f | e
      · rw [configure_of_error hparse]
        exact hs
      · rw [context_configure_of_ok hparse]
        exact ColumnCache.fits_empty hs.room
  | disconnect =>
      dsimp only [take]
      rw [context_disconnect]
      exact ColumnCache.fits_empty hs.room
  | call m args => exact (taught_call hs m args).cache.fits hs
  | rememberSchema | limit | requireConnection | prepare | failClosing => exact hs

/-- Every history keeps the cache within its bound, by induction on its steps. -/
theorem fits_after {s : Session Script} (hs : s.context.cache.Fits) (history : List Step) :
    (s.after history).context.cache.Fits := by
  induction history generalizing s with
  | nil => exact hs
  | cons step rest ih => exact ih (fits_take hs step)

end Session

/-- What a call can change of a datasource. Whatever the session went through and however the
    call ends, the engine, the builder, the connection and the override stay; a schema comes to
    be remembered only where none was and a query of this call named it; and in the cache one
    entry at most becomes the most recent one, or one list comes in that a query of this call
    told, for which the least recent entry makes room when the cache is full. No entry is past
    its time, so none goes for that reason. A call whose first query fails runs no other one,
    remembers the schema that it did, and has the same entries in its cache. -/
theorem call_frame (override : String) (limits : Limits) (server : Script) (history : List Step)
    (m : Reader.Method) (args : Arguments) :
    let s := (Session.fresh override limits server).after history
    let runs := s.callRuns m args
    let t := (s.call m args).2
    (t.context.engine = s.context.engine ∧ t.context.builder = s.context.builder ∧
        t.context.connection = s.context.connection ∧
        t.context.override = s.context.override) ∧
      t.events = s.events ++ runs.flatMap Run.events ∧
      (t.context.currentSchema = s.context.currentSchema ∨
        s.context.currentSchema = none ∧
          ∃ r ∈ runs, ∃ schema, r.TellsSchema schema ∧
            t.context.currentSchema = some schema) ∧
      s.context.cache.Change (fun key columns => ∃ r ∈ runs, r.TellsColumns key columns)
        t.context.cache ∧
      ∀ r rest f, runs = r :: rest → (r.session.run r.request).1 = .error f →
        rest = [] ∧ t.context.currentSchema = s.context.currentSchema ∧
          t.context.cache.entries.Perm s.context.cache.entries := by
  intro s runs t
  have hfits : s.context.cache.Fits := Session.fits_after (Session.fits_fresh _ _ _) history
  have htaught : Context.Taught runs 1 s.context t.context := Session.taught_call hfits m args
  have hlearns : s.context.Learns t.context := s.learns_call m args
  have hcourse := (m.inquiry s.frame args).course_exec s
  refine ⟨⟨hlearns.engine, hlearns.builder, hlearns.connection, hlearns.override⟩, ?_,
    htaught.schema, htaught.cache, ?_⟩
  · exact (s.call_eq_exec m args).2.1.trans hcourse.events
  · intro r rest f hruns hfails
    obtain ⟨rfl, -⟩ := hcourse.of_error (show runs = [] ++ r :: rest from hruns) hfails
    obtain ⟨hschema, hcolumns⟩ := Run.untold_of_error hfails
    rw [hruns] at htaught
    refine ⟨rfl, htaught.schema.resolve_right ?_, htaught.cache.perm_of_untold hfits ?_⟩
    · rintro ⟨-, told, hmem, schema, htells, -⟩
      exact hschema schema (List.mem_singleton.mp hmem ▸ htells)
    · rintro key columns ⟨told, hmem, htells⟩
      exact hcolumns key columns (List.mem_singleton.mp hmem ▸ htells)

/-- A server that lists the columns of two tables, and is gone after that. -/
def goneServer : Script where
  queues := [("main", [
    .reply { result := {
      columns := ["column_name"]
      rows := [[.text "id", .null, .null, .null, .null, .null, .null, .null]] } },
    .reply { result := {
      columns := ["column_name"]
      rows := [[.text "job", .null, .null, .null, .null, .null, .null, .null]] } },
    .reply { failure := some (.execute, "gone") }])]

/-- A session that knows the columns of both tables. -/
def knowing : Session Script :=
  (Session.fresh "" {} goneServer).after
    [.configure (.text "postgres") (some "main") none,
      .call .tableColumns [("table", .text "orders")],
      .call .tableColumns [("table", .text "jobs")]]

/-- The rows of the older one cannot be counted. Its columns are the ones used last now, and
    else the call left the cache as it was. -/
theorem call_frame_gone :
    let t := (knowing.call .listTableRows [("table", .text "orders")]).2
    (knowing.callRuns .listTableRows [("table", .text "orders")]).map Run.breakdown? =
        [some (.execute, "gone")] ∧
      knowing.context.cache.entries.map Prod.fst =
        ["postgres:public:orders", "postgres:public:jobs"] ∧
      t.context.cache.entries.map Prod.fst =
        ["postgres:public:jobs", "postgres:public:orders"] ∧
      t.context.cache.entries.Perm knowing.context.cache.entries := by
  have hbreaks : (knowing.callRuns .listTableRows [("table", .text "orders")]).map
      Run.breakdown? = [some (.execute, "gone")] := by decide +kernel
  obtain ⟨r, hruns, hbroken⟩ := List.map_eq_singleton_iff.mp hbreaks
  obtain ⟨-, -, -, -, hfirst⟩ := call_frame "" {} goneServer
    [.configure (.text "postgres") (some "main") none,
      .call .tableColumns [("table", .text "orders")],
      .call .tableColumns [("table", .text "jobs")]]
    .listTableRows [("table", .text "orders")]
  obtain ⟨-, -, hperm⟩ := hfirst r [] _ hruns (Session.run_of_breakdown hbroken)
  exact ⟨hbreaks, by decide +kernel, by decide +kernel, hperm⟩

end SqlCatalog
