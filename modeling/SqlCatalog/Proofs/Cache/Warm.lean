import SqlCatalog.Proofs.Basic
import SqlCatalog.Proofs.Cache.Key
import SqlCatalog.Proofs.Session.Keeping
import SqlCatalog.Proofs.Session.Source
import SqlCatalog.Reader.Rows

/-!
# Warm Caches

What a session has in its cache after some calls on a source that does not change. The
cache only ever gains a list that the source has just answered with, so every list in
it goes back to a call: it is what the source says about the table that the call named.
This is the invariant, and it says nothing about which lists are still there, since
room is made for new ones all the time.

`Warm` is kept by everything a call does. Running queries and resolving schemas leave
the cache alone, and `Warm.askColumns` looks at the one step that does not.

## Main definitions

* `TableCall`: A call that asks for the columns of a table.
* `Session.columnsOf`: The answer to such a call.
* `Loaded`: A cached list that goes back to a call.
* `Warm`: A session in which every cached list does.

## Theorems

* `Warm.columnsOf`: A call has the answer of the source or a cached one.
* `Warm.after`: A call keeps a session warm.
* `warm_afterCalls`: So does any number of calls.
-/

namespace SqlCatalog

/-! ### The cache -/

namespace ColumnCache

theorem mem_of_mem_without {k : String} {entries : List (String × List Value)}
    {entry : String × List Value} (h : entry ∈ without k entries) : entry ∈ entries :=
  (List.mem_filter.mp h).1

/-- A list that is found is in the cache, and using it brings nothing new. -/
theorem hit?_spec {c c' : ColumnCache} {k : String} {columns : List Value}
    (h : c.hit? k = some (columns, c')) :
    (k, columns) ∈ c.entries ∧ c'.capacity = c.capacity ∧
      ∀ entry ∈ c'.entries, entry ∈ c.entries := by
  rw [hit?, Option.map_eq_some_iff] at h
  rcases h with ⟨found, hlookup, heq⟩
  rw [Prod.mk.injEq] at heq
  rcases heq with ⟨rfl, rfl⟩
  have hmem : (k, found) ∈ c.entries := mem_of_lookup hlookup
  refine ⟨hmem, rfl, fun entry hentry => ?_⟩
  rcases List.mem_append.mp hentry with hold | hnew
  · exact mem_of_mem_without hold
  · rw [List.mem_singleton.mp hnew]
    exact hmem

/-- A cache with room that does not have a list asks for it, and keeps it when it gets
    it. -/
theorem ask_of_miss {c : ColumnCache} {k : String} (hroom : ¬c.capacity < 1)
    (hmiss : c.hit? k = none) (load : Outcome (List Value)) :
    (c.ask k load).columns = load ∧ (c.ask k load).cache.capacity = c.capacity ∧
      ∀ entry ∈ (c.ask k load).cache.entries,
        entry ∈ c.entries ∨ entry.1 = k ∧ load = .ok entry.2 := by
  simp only [ask, hmiss]
  rcases load with f | columns
  · exact ⟨rfl, rfl, fun entry hentry => Or.inl hentry⟩
  · simp only [store, if_neg hroom]
    refine ⟨trivial, trivial, fun entry hentry => ?_⟩
    rcases List.mem_append.mp hentry with hold | hnew
    · exact Or.inl (mem_of_mem_without (List.mem_of_mem_drop hold))
    · rw [List.mem_singleton.mp hnew]
      exact Or.inr ⟨rfl, rfl⟩

end ColumnCache

/-! ### Calls -/

/-- A call that asks for the columns of a table, by themselves or to browse its rows. -/
inductive TableCall where
  | columns (table schema : Value)
  | rows (q : RowsRequest)

namespace TableCall

/-- The table that the call names. -/
def table : TableCall → Value
  | .columns table _ => table
  | .rows q => q.table

/-- The schema that the call names. -/
def schema : TableCall → Value
  | .columns _ schema => schema
  | .rows q => q.schema

/-- The session after the call. -/
def after {σ : Type} [Server σ] (s : Session σ) : TableCall → Session σ
  | .columns table schema => ((Reader.tableColumns s.frame table schema).exec s).2
  | .rows q => ((Reader.tableRows s.frame q).exec s).2

end TableCall

namespace Session

variable {σ : Type} [Server σ]

/-- The session after calls, one after the other. -/
def afterCalls (s : Session σ) (calls : List TableCall) : Session σ :=
  calls.foldl TableCall.after s

/-- What a session answers when it is asked for the columns of a table. -/
def columnsOf (s : Session σ) (table schema : Value) : Outcome (List Value) :=
  ((Reader.tableColumns s.frame table schema).exec s).1

end Session

/-- Only a text has a key. -/
theorem text_of_columnKey {e : Engine} {schema k : String} {table : Value}
    (h : Session.columnKey e schema table = .ok k) :
    ∃ x, table = .text x ∧ ColumnCache.key e.driverName schema x = k := by
  unfold Session.columnKey at h
  split at h
  · rename_i x
    exact ⟨x, rfl, Except.ok.inj h⟩
  all_goals exact absurd h (by simp [refuse])

/-! ### Warm sessions -/

/-- A cached list goes back to a call: it is what the source lists for the table that
    the call names, under the key of that table. -/
def Loaded (d : Source) (calls : List TableCall) (entry : String × List Value) : Prop :=
  ∃ call ∈ calls, ∃ a x, d.resolveSchema call.schema = .ok a ∧ call.table = .text x ∧
    ColumnCache.key d.engine.driverName a x = entry.1 ∧ d.load a (.text x) = .ok entry.2

/-- A session on the source in which every cached list goes back to a call. -/
structure Warm (d : Source) (calls : List TableCall) (s : Session FixedServer) : Prop
    extends Session.On d s where
  room : ¬s.context.cache.capacity < 1
  entries : ∀ entry ∈ s.context.cache.entries, Loaded d calls entry

namespace Warm

variable {d : Source} {calls : List TableCall} {s : Session FixedServer}

theorem fresh (d : Source) : Warm d [] d.fresh where
  toOn := Session.On.fresh d
  room := by
    have hcapacity : d.fresh.context.cache.capacity = 256 := rfl
    omega
  entries entry h := absurd h (by simp [Source.fresh])

theorem mono (h : Warm d calls s) {more : List TableCall} (hsub : ∀ call ∈ calls, call ∈ more) :
    Warm d more s where
  toOn := h.toOn
  room := h.room
  entries entry hentry := by
    rcases h.entries entry hentry with ⟨call, hcall, hloaded⟩
    exact ⟨call, hsub call hcall, hloaded⟩

theorem of_cache (h : Warm d calls s) {t : Session FixedServer} (ht : Session.On d t)
    (hcache : t.context.cache = s.context.cache) : Warm d calls t where
  toOn := ht
  room := by rw [hcache]; exact h.room
  entries := by rw [hcache]; exact h.entries

theorem run (h : Warm d calls s) (q : Request) : Warm d calls (s.run q).2 :=
  h.of_cache (h.toOn.after_run q) (by rw [(h.toOn.run q).2.1])

theorem withCache (h : Warm d calls s) {cache : ColumnCache}
    (hroom : cache.capacity = s.context.cache.capacity)
    (hentries : ∀ entry ∈ cache.entries, Loaded d calls entry) :
    Warm d calls (s.withCache cache) where
  toOn := ⟨h.engine, h.connection, h.override, h.limits, h.server, h.schema⟩
  room := by
    have hcapacity : (s.withCache cache).context.cache.capacity = cache.capacity := rfl
    rw [hcapacity, hroom]
    exact h.room
  entries := hentries

/-- Asking for the columns of a table has the answer of the source or that of a cached
    list. -/
theorem askColumns_outcome (h : Warm d calls s) (schema : String) (table : Value) :
    (s.askColumns d.engine schema table).1 =
        (Session.columnKey d.engine schema table).bind (fun _ => d.load schema table) ∨
      ∃ k columns, Session.columnKey d.engine schema table = .ok k ∧
        (k, columns) ∈ s.context.cache.entries ∧
        (s.askColumns d.engine schema table).1 = .ok columns := by
  rw [Session.askColumns]
  rcases hkey : Session.columnKey d.engine schema table with f | k
  · exact Or.inl rfl
  · simp only []
    rcases hhit : s.context.cache.hit? k with _ | ⟨columns, cache⟩
    · -- Nothing is cached under the key, and asking the source changes nothing about that.
      left
      have hload := h.toOn.loadColumns schema table
      have hmiss : (s.loadColumns d.engine schema table).2.context.cache.hit? k = none := by
        rw [hload.2.2, hhit]
      have hroom := (h.of_cache hload.2.1 hload.2.2).room
      exact (ColumnCache.ask_of_miss hroom hmiss _).1.trans hload.1
    · exact Or.inr ⟨k, columns, rfl, (ColumnCache.hit?_spec hhit).1, rfl⟩

/-- A table that a call names can be asked for. -/
theorem askColumns (h : Warm d calls s) {call : TableCall} (hcall : call ∈ calls)
    {schema : String} (hschema : d.resolveSchema call.schema = .ok schema) :
    Warm d calls (s.askColumns d.engine schema call.table).2 := by
  rw [Session.askColumns]
  rcases hkey : Session.columnKey d.engine schema call.table with f | k
  · exact h
  · simp only []
    rcases hhit : s.context.cache.hit? k with _ | ⟨columns, cache⟩
    · have hload := h.toOn.loadColumns schema call.table
      have hwarm := h.of_cache hload.2.1 hload.2.2
      have hmiss : (s.loadColumns d.engine schema call.table).2.context.cache.hit? k = none := by
        rw [hload.2.2, hhit]
      have hask := ColumnCache.ask_of_miss hwarm.room hmiss
        (s.loadColumns d.engine schema call.table).1
      refine hwarm.withCache hask.2.1 fun entry hentry => ?_
      rcases hask.2.2 entry hentry with hold | ⟨hfst, hsnd⟩
      · exact hwarm.entries entry hold
      · -- The new entry is what was just loaded, and only a text has a key.
        rcases text_of_columnKey hkey with ⟨x, hname, hx⟩
        refine ⟨call, hcall, schema, x, hschema, hname, by rw [hfst, hx], ?_⟩
        rw [← hname, ← hload.1]
        exact hsnd
    · -- A hit moves an entry and brings in none.
      have hspec := ColumnCache.hit?_spec hhit
      exact h.withCache hspec.2.1 fun entry hentry => h.entries entry (hspec.2.2 entry hentry)

/-! ### One call -/

/-- Asking for the columns of a table resolves the schema and then asks. -/
theorem exec_tableColumns (h : Session.On d s) (table schema : Value) :
    (Reader.tableColumns s.frame table schema).exec s =
      match (s.frame.resolveSchema schema).exec s with
      | (.error f, t) => (.error f, t)
      | (.ok resolved, t) => t.askColumns d.engine resolved table := by
  have hinquiry : Reader.tableColumns s.frame table schema =
      (s.frame.resolveSchema schema).bind fun resolved =>
        .columns d.engine resolved table pure := by
    rw [h.frame]
    rfl
  rw [hinquiry, Inquiry.exec_bind]
  rcases (s.frame.resolveSchema schema).exec s with ⟨f | resolved, t⟩
  · rfl
  · simp only [Inquiry.exec]
    rcases t.askColumns d.engine resolved table with ⟨f | columns, u⟩ <;> rfl

/-- A call has the answer of the source, or that of a list which is cached under the key
    of its table. -/
theorem columnsOf (h : Warm d calls s) (table schema : Value) :
    s.columnsOf table schema = d.columns table schema ∨
      ∃ resolved k columns, d.resolveSchema schema = .ok resolved ∧
        Session.columnKey d.engine resolved table = .ok k ∧
        (k, columns) ∈ s.context.cache.entries ∧ s.columnsOf table schema = .ok columns := by
  have hresolve := h.toOn.resolveSchema schema
  rw [Session.columnsOf, exec_tableColumns h.toOn, Source.columns]
  rcases heq : (s.frame.resolveSchema schema).exec s with ⟨f | resolved, t⟩
  · rw [heq] at hresolve
    left
    rw [← hresolve.1]
    rfl
  · rw [heq] at hresolve
    -- Resolving the schema may ask the source, but it leaves the cache alone.
    have hwarm := h.of_cache hresolve.2.1 hresolve.2.2
    rw [← hresolve.1]
    rcases hwarm.askColumns_outcome resolved table with hload | ⟨k, columns, hkey, hmem, hask⟩
    · exact Or.inl hload
    · rw [hresolve.2.2] at hmem
      exact Or.inr ⟨resolved, k, columns, rfl, hkey, hmem, hask⟩

theorem keeps_resolveSchema (schema : Value) :
    Inquiry.Keeps (Warm d calls) (d.fresh.frame.resolveSchema schema)
      (fun resolved => d.resolveSchema schema = .ok resolved) := by
  intro s h
  have hresolve := h.toOn.resolveSchema schema
  rw [h.toOn.frame] at hresolve
  refine ⟨h.of_cache hresolve.2.1 hresolve.2.2, fun resolved heq => ?_⟩
  rw [← hresolve.1, heq]

/-- The columns of a table that a call names can be asked for, in any spelling of the
    schema that comes to the same. -/
theorem keeps_tableColumns {call : TableCall} (hcall : call ∈ calls) {schema : Value}
    (hschema : ∀ resolved, d.resolveSchema schema = .ok resolved →
      d.resolveSchema call.schema = .ok resolved) :
    Inquiry.Keeps (Warm d calls) (Reader.tableColumns d.fresh.frame call.table schema)
      (fun _ => True) := by
  intro s h
  refine ⟨?_, fun _ _ => trivial⟩
  have hresolve := h.toOn.resolveSchema schema
  rw [← h.toOn.frame, exec_tableColumns h.toOn]
  rcases heq : (s.frame.resolveSchema schema).exec s with ⟨f | resolved, t⟩
  · rw [heq] at hresolve
    exact h.of_cache hresolve.2.1 hresolve.2.2
  · rw [heq] at hresolve
    exact (h.of_cache hresolve.2.1 hresolve.2.2).askColumns hcall (hschema _ hresolve.1.symm)

end Warm

/-! ### Any number of calls -/

/-- What a caller's schema resolves to before the source is asked: nothing only when
    there is no default either. -/
theorem default_eq_of_resolveSchema {schema : Value} {default : String}
    (h : Identifier.resolveSchema schema default = .ok "") : default = "" := by
  by_cases hdefault : default = ""
  · exact hdefault
  · have hname (v : Value) (kind : String) : Identifier.require v kind ≠ .ok "" :=
      fun hrequire => absurd (Identifier.isName_of_require hrequire).2 (by decide)
    have htruthy : (Value.text default).isTruthy = true := by
      simpa [Value.isTruthy] using hdefault
    rw [Identifier.resolveSchema] at h
    by_cases hschema : schema.isTruthy = true
    · rw [if_pos hschema] at h
      exact absurd h (by simp [hschema, hname])
    · rw [if_neg hschema] at h
      exact absurd h (by simp [htruthy, hname])

/-- A resolved schema resolves to itself, as far as it resolves at all. -/
theorem Source.resolveSchema_text {d : Source} {schema : Value} {a b : String}
    (ha : d.resolveSchema schema = .ok a) (hb : d.resolveSchema (.text a) = .ok b) : b = a := by
  rw [Source.resolveSchema] at ha hb
  generalize d.fresh.context.defaultSchema = default at ha hb
  rcases hfirst : Identifier.resolveSchema schema default with f | r
  · rw [hfirst] at ha
    exact absurd ha (by simp [bind, Except.bind])
  · rw [hfirst] at ha
    simp only [bind, Except.bind] at ha
    by_cases hempty : a = ""
    · -- Nothing resolves to nothing, so both ask the source, or neither does.
      have hr : r = "" := by
        by_cases hr : r = ""
        · exact hr
        · rw [if_neg (by simp [hr])] at ha
          rw [Except.ok.inj ha, hempty]
      rw [hr] at hfirst ha
      have hsecond : Identifier.resolveSchema (.text a) default = .ok "" := by
        rw [hempty, default_eq_of_resolveSchema hfirst]
        rfl
      rw [hsecond] at hb
      exact Except.ok.inj (hb.symm.trans ha)
    · -- A schema that is there resolves to itself without asking.
      have htruthy : (Value.text a).isTruthy = true := by simpa [Value.isTruthy] using hempty
      rw [Identifier.resolveSchema, if_pos htruthy] at hb
      simp only [htruthy, if_true, Identifier.require] at hb
      split at hb
      · simp only [bind, Except.bind] at hb
        rw [if_neg (by simp [hempty])] at hb
        exact (Except.ok.inj hb).symm
      · exact absurd hb (by simp [refuse, bind, Except.bind])

namespace Warm

variable {d : Source} {calls : List TableCall} {s : Session FixedServer}

theorem keeps_tableRows {q : RowsRequest} (hcall : TableCall.rows q ∈ calls) :
    Inquiry.Keeps (Warm d calls) (Reader.tableRows d.fresh.frame q) (fun _ => True) := by
  have hfetch := Inquiry.Keeps.fetch fun q (s : Session FixedServer) (h : Warm d calls s) => h.run q
  rw [Reader.tableRows]
  refine .bind (.lift _) fun e _ => ?_
  refine .bind (.lift _) fun _ _ => ?_
  refine .bind (keeps_resolveSchema q.schema) fun schema hschema => ?_
  refine .bind (.lift _) fun page _ => ?_
  -- The schema is resolved twice, and the second time comes to the same.
  have hcolumns : Inquiry.Keeps (Warm d calls)
      (Reader.tableColumns d.fresh.frame q.table (.text schema)) (fun _ => True) := by
    refine keeps_tableColumns hcall fun resolved hresolved => ?_
    rw [Source.resolveSchema_text hschema hresolved]
    exact hschema
  refine .bind hcolumns fun columns _ => ?_
  dsimp only
  split
  · exact .bind (.lift _) fun _ hrefuse => absurd hrefuse (by simp [refuse])
  · -- From here on only queries are run.
    refine .bind (.lift _) fun index _ => ?_
    refine .bind (.lift _) fun named _ => ?_
    refine .bind (.lift _) fun selected _ => ?_
    refine .bind (.lift _) fun order _ => ?_
    refine .bind (.lift _) fun filters _ => ?_
    refine .bind (.lift _) fun clause _ => ?_
    refine .bind (.lift _) fun count _ => ?_
    refine .bind (hfetch _ _ _ _) fun counted _ => ?_
    refine .bind (.lift _) fun total _ => ?_
    refine .bind (.lift _) fun _ _ => ?_
    refine .bind (.lift _) fun direction _ => ?_
    refine .bind (.lift _) fun select _ => ?_
    refine .bind (hfetch _ _ _ _) fun result _ => ?_
    exact (Inquiry.Keeps.pure _).weaken fun _ _ => trivial

/-- A call keeps a session warm. -/
theorem after (h : Warm d calls s) {call : TableCall} (hcall : call ∈ calls) :
    Warm d calls (call.after s) := by
  cases call with
  | columns table schema =>
      rw [TableCall.after, h.toOn.frame]
      exact (keeps_tableColumns hcall (fun _ hresolved => hresolved) s h).1
  | rows q =>
      rw [TableCall.after, h.toOn.frame]
      exact (keeps_tableRows hcall s h).1

end Warm

/-- So does any number of calls. -/
theorem warm_afterCalls (d : Source) (calls : List TableCall) :
    Warm d calls (d.fresh.afterCalls calls) := by
  suffices h : ∀ (rest : List TableCall) (s : Session FixedServer), (∀ call ∈ rest, call ∈ calls) →
      Warm d calls s → Warm d calls (s.afterCalls rest) from
    h calls d.fresh (fun _ hcall => hcall) ((Warm.fresh d).mono (by simp))
  intro rest
  induction rest with
  | nil => exact fun s _ h => h
  | cons call rest ih =>
      intro s hsub h
      exact ih _ (fun c hc => hsub c (List.mem_cons_of_mem call hc))
        (h.after (hsub call List.mem_cons_self))

end SqlCatalog
