import SqlCatalog.Proofs.Settings.Entries

/-!
# What a Mapping Gives

A mapping is read entry by entry, but what it gives for a setting should hang on that setting
alone. It does because the keys of a mapping are distinct: there is one entry at most for a
setting, and where it stands and what stands around it do not count. So two mappings with the
same entries for settings, in whatever order, give the same (`Setting.valueIn_eq_of_perm`).

The keys of a document are distinct because an entry with a key that is there already replaces
the value under it.

## Main definitions

* `DistinctKeys`: No two entries have equal keys.
* `namesSetting`: An entry is for a setting.
* `Setting.valueIn`, `Setting.textIn`: What a mapping and an environment give for a setting.

## Theorems

* `Document.distinctKeys_ofText`: The keys of a document are distinct.
* `Setting.valueIn_eq_some_iff`: What a mapping gives for a setting stands in it.
* `Setting.valueIn_eq_of_perm`: Order does not count, nor do entries that are for no setting.
* `Settings.valueIn_environmentEntries`: What the environment gives as a mapping.
-/

namespace SqlCatalog

/-- No two entries have equal keys. -/
def DistinctKeys (entries : List (Value × Value)) : Prop :=
  entries.Pairwise fun e f => e.1.equal f.1 = false

/-! ### Documents -/

namespace Value

/-- One more entry keeps the keys distinct: it takes the place of the entry with its key, or no
    entry has its key. -/
theorem distinctKeys_insertEntry {entries : List (Value × Value)} (h : DistinctKeys entries)
    (k v : Value) : DistinctKeys (insertEntry entries k v) := by
  unfold insertEntry
  split
  · -- A value is replaced, and all keys are what they were.
    rw [DistinctKeys, List.pairwise_map]
    refine h.imp fun {e f} hef => ?_
    have hkey (e : Value × Value) : (if e.1.equal k then (e.1, v) else e).1 = e.1 := by
      split <;> rfl
    rw [hkey, hkey]
    exact hef
  · rename_i hnew
    rw [DistinctKeys, List.pairwise_append]
    refine ⟨h, List.pairwise_singleton _ _, fun e he f hf => ?_⟩
    rw [List.mem_singleton.mp hf, ← Bool.not_eq_true]
    exact fun hequal => hnew (List.any_eq_true.mpr ⟨e, he, hequal⟩)

/-- A map from entries has distinct keys: it is built one entry at a time. -/
theorem distinctKeys_ofEntries {given entries : List (Value × Value)}
    (h : ofEntries given = .map entries) : DistinctKeys entries := by
  rw [ofEntries] at h
  rw [← Value.map.inj h]
  exact List.foldlRecOn given _ .nil fun done hdone entry _ =>
    distinctKeys_insertEntry hdone entry.1 entry.2

end Value

namespace Document

/-- A document that goes on over lines is no mapping, or an empty one. -/
theorem eq_nil_of_ofOther {first : Line} {rest : List Line} {entries : List (Value × Value)}
    (h : ofOther first rest = .mapping entries) : entries = [] := by
  unfold ofOther at h
  grind

/-- The keys of a document are distinct, whatever text it was read from. -/
theorem distinctKeys_ofText {text : String} {entries : List (Value × Value)}
    (h : ofText text = .mapping entries) : DistinctKeys entries := by
  have hempty {entries : List (Value × Value)} (h : entries = []) : DistinctKeys entries := by
    rw [h]
    exact .nil
  -- Of all forms of a document only rows of entries make a mapping with something in it.
  unfold ofText at h
  dsimp only at h
  split at h
  · exact absurd h (by simp)
  · split at h
    · exact hempty (Document.mapping.inj h).symm
    · split at h
      · exact absurd h (by simp)
      · split at h
        · unfold ofEntryLines at h
          split at h
          · split at h
            · split at h
              · rename_i hentries
                rw [← Document.mapping.inj h]
                exact Value.distinctKeys_ofEntries hentries
              · exact absurd h (by simp)
            · exact absurd h (by simp)
          · exact absurd h (by simp)
        · exact hempty (eq_nil_of_ofOther h)

end Document

/-! ### What a mapping gives -/

/-- Whether an entry is for a setting. -/
def namesSetting (entry : Value × Value) : Bool :=
  (entry.1.text?.bind Setting.ofName?).isSome

namespace Value

variable {entries : List (Value × Value)} {name : String} {v : Value}

/-- An entry with another key is passed over. -/
theorem field_cons_of_ne {key : Value} (h : key ≠ .text name) :
    field name ((key, v) :: entries) = field name entries := by
  cases key with
  | text s => rw [field, if_neg fun hs => h (congrArg Value.text hs)]
  | _ => rfl

/-- An entry is found under its key, which no other entry of a mapping has. -/
theorem field_eq_iff_mem (h : DistinctKeys entries) (hv : v ≠ .null) :
    field name entries = v ↔ (.text name, v) ∈ entries := by
  induction entries with
  | nil => exact ⟨fun hnull => absurd hnull.symm hv, fun hmem => absurd hmem List.not_mem_nil⟩
  | cons entry rest ih =>
      obtain ⟨key, w⟩ := entry
      obtain ⟨hfirst, hrest⟩ := List.pairwise_cons.mp h
      rw [List.mem_cons, Prod.mk.injEq]
      by_cases hkey : key = .text name
      · -- A second entry with the key would be equal to the first one in its key.
        subst hkey
        have hnew : (.text name, v) ∉ rest := fun hmem => by
          have hdistinct : (Value.text name).equal (.text name) = false := hfirst _ hmem
          rw [equal, beq_self_eq_true] at hdistinct
          exact absurd hdistinct (by decide)
        rw [field, if_pos rfl, or_iff_left hnew]
        exact ⟨fun h => ⟨rfl, h.symm⟩, fun h => h.2.symm⟩
      · rw [field_cons_of_ne hkey, or_iff_right fun h => hkey h.1.symm]
        exact ih hrest

end Value

namespace Setting

/-- The value that a mapping gives for a setting: the one under its name, unless it is null. -/
def valueIn (k : Setting) (entries : List (Value × Value)) : Option Value :=
  match Value.field k.name entries with
  | .null => none
  | v => some v

/-- The variable that gives a setting, if there is one. -/
def variableName? : Setting → Option String
  | .engine => some "DB_DRIVER"
  | .connectionString => some "DB_CONNECTION_STRING"
  | .defaultSchema => some "DB_DEFAULT_SCHEMA"
  | .logLevel => some "DBMCP_LOG_LEVEL"
  | .logFile => some "DBMCP_LOG_FILE"
  | .maxPageSize | .maxRowsPageSize | .maxQueryRows => none

/-- The text that the environment gives for a setting: that of its variable, unless it is
    empty. -/
def textIn (k : Setting) (env : Environment) : Option String :=
  (k.variableName?.bind fun name => env.lookup name).filter (· ≠ "")

theorem valueIn_eq_some {k : Setting} {entries : List (Value × Value)} {v : Value} :
    k.valueIn entries = some v ↔ Value.field k.name entries = v ∧ v ≠ .null := by
  unfold valueIn
  split
  · rename_i hnull
    rw [hnull]
    exact ⟨fun h => absurd h (by simp), fun h => absurd h.1.symm h.2⟩
  · rename_i hvalue
    rw [Option.some.injEq]
    exact ⟨fun h => ⟨h, fun hv => hvalue (h.trans hv)⟩, And.left⟩

/-- What a mapping gives for a setting is what stands under its name, unless it is null. -/
theorem valueIn_eq_some_iff {entries : List (Value × Value)} (h : DistinctKeys entries)
    {k : Setting} {v : Value} :
    k.valueIn entries = some v ↔ (.text k.name, v) ∈ entries ∧ v ≠ .null := by
  rw [valueIn_eq_some]
  exact and_congr_left fun hv => Value.field_eq_iff_mem h hv

/-- Two mappings with the same entries for settings give the same for every setting. -/
theorem valueIn_eq_of_perm {entries others : List (Value × Value)} (h : DistinctKeys entries)
    (hothers : DistinctKeys others)
    (hsame : (entries.filter namesSetting).Perm (others.filter namesSetting)) (k : Setting) :
    k.valueIn entries = k.valueIn others := by
  have hnames (v : Value) : namesSetting (.text k.name, v) = true := by
    rw [namesSetting, Value.text?, Option.bind_some, ofName?_name]
    rfl
  have hmem (v : Value) (among : List (Value × Value)) :
      (.text k.name, v) ∈ among ↔ (.text k.name, v) ∈ among.filter namesSetting := by
    rw [List.mem_filter, and_iff_left (hnames v)]
  refine Option.ext fun v => ?_
  rw [valueIn_eq_some_iff h, valueIn_eq_some_iff hothers,
    hmem v entries, hsame.mem_iff, ← hmem v others]

theorem variableName?_eq_some_iff {k : Setting} {name : String} :
    k.variableName? = some name ↔ (name, k) ∈ Settings.variableNames := by
  cases k <;> simp [variableName?, Settings.variableNames, eq_comm]

end Setting

/-! ### What the environment gives -/

namespace Settings

/-- The environment gives one text for a setting at most. -/
theorem distinctKeys_environmentEntries (env : Environment) :
    DistinctKeys (environmentEntries env) := by
  have hnames : variableNames.Pairwise fun a b => a.2.name ≠ b.2.name := by decide
  rw [environmentEntries_eq, DistinctKeys, List.pairwise_filterMap]
  refine hnames.imp fun {a b} hne e he f hf => ?_
  rw [Option.map_eq_some_iff] at he hf
  obtain ⟨⟨s, -, rfl⟩, t, -, rfl⟩ := And.intro he hf
  rw [Value.equal]
  exact beq_eq_false_iff_ne.mpr hne

/-- As a mapping the environment gives the texts of its variables. -/
theorem valueIn_environmentEntries (env : Environment) (k : Setting) :
    k.valueIn (environmentEntries env) = (k.textIn env).map .text := by
  refine Option.ext fun v => ?_
  rw [Setting.valueIn_eq_some_iff
    (distinctKeys_environmentEntries env), environmentEntries_eq, List.mem_filterMap]
  constructor
  · rintro ⟨⟨⟨name, setting⟩, hvariable, hentry⟩, -⟩
    obtain ⟨s, hs, hentry⟩ := Option.map_eq_some_iff.mp hentry
    obtain ⟨hname, rfl⟩ := Prod.mk.injEq .. ▸ hentry
    obtain rfl := Setting.name_inj (Value.text.inj hname)
    rw [Setting.textIn, Setting.variableName?_eq_some_iff.mpr hvariable, Option.bind_some, hs]
    rfl
  · intro h
    obtain ⟨s, hs, rfl⟩ := Option.map_eq_some_iff.mp h
    refine ⟨?_, by simp⟩
    rw [Setting.textIn] at hs
    obtain ⟨name, hname, hlookup⟩ :=
      Option.bind_eq_some_iff.mp (Option.filter_eq_some_iff.mp hs).1
    refine ⟨(name, k), Setting.variableName?_eq_some_iff.mp hname, ?_⟩
    rw [hname, Option.bind_some] at hs
    exact Option.map_eq_some_iff.mpr ⟨s, hs, rfl⟩

end Settings

end SqlCatalog
