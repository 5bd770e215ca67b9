import SqlCatalog.Proofs.Settings.Mappings

/-!
# One Pass over a Mapping

Settings are read from a mapping entry by entry, and every entry updates a record. The pass is
characterized here setting by setting (`Overrides.readInto_eq_ok_iff`): it ends well if and
only if every value converts and every other name has a text, and then every setting is what
its own value converts to. The order of the entries is gone from this description, and so is
what stands under the names that are no settings.

## Main definitions

* `Setting.Content`: What a setting can be set to.
* `Setting.convert`: The check and the conversion of a value for a setting.
* `Settings.content`, `Overrides.given`: What a setting is, and what is given for it.
* `Setting.Sets`: What a pass does to one setting.
* `Overrides.Reads`: What a pass does to all of them.

## Theorems

* `Settings.content_apply`: What is given replaces what was there.
* `Overrides.readInto_eq_ok_iff`: When a pass ends well, and how.
* `Overrides.Reads.of_perm`: The order of the entries does not count.
-/

namespace SqlCatalog

/-! ### One setting -/

namespace Setting

/-- What a setting can be set to. -/
abbrev Content : Setting → Type
  | .engine => Engine
  | .connectionString | .defaultSchema | .logFile => String
  | .logLevel => LogLevel
  | .maxPageSize | .maxRowsPageSize | .maxQueryRows => Int

/-- What a value for a setting is converted to, if it passes the check of the setting. -/
def convert : (k : Setting) → Value → Outcome k.Content
  | .engine, v => Overrides.readEngine v
  | .connectionString, v | .logFile, v => v.written
  | .defaultSchema, v => Overrides.readSchema v
  | .logLevel, v => Overrides.readLevel v
  | .maxPageSize, v => Overrides.readPositive .maxPageSize v
  | .maxRowsPageSize, v => Overrides.readPositive .maxRowsPageSize v
  | .maxQueryRows, v => Overrides.readPositive .maxQueryRows v

end Setting

/-- What a setting is set to. Only the file of the log can be set to nothing. -/
def Settings.content (s : Settings) : (k : Setting) → Option k.Content
  | .engine => some s.engine
  | .connectionString => some s.connectionString
  | .defaultSchema => some s.defaultSchema
  | .logLevel => some s.logLevel
  | .logFile => s.logFile
  | .maxPageSize => some s.maxPageSize
  | .maxRowsPageSize => some s.maxRowsPageSize
  | .maxQueryRows => some s.maxQueryRows

/-- Settings that agree on every setting are the same. -/
theorem Settings.eq_of_content {s t : Settings} (h : ∀ k, s.content k = t.content k) : s = t := by
  obtain ⟨_, _, _, _, _, _, _, _⟩ := s
  obtain ⟨_, _, _, _, _, _, _, _⟩ := t
  rw [Settings.mk.injEq]
  exact ⟨Option.some.inj (h .engine), Option.some.inj (h .connectionString),
    Option.some.inj (h .defaultSchema), Option.some.inj (h .logLevel), h .logFile,
    Option.some.inj (h .maxPageSize), Option.some.inj (h .maxRowsPageSize),
    Option.some.inj (h .maxQueryRows)⟩

namespace Overrides

/-- What is given for a setting. -/
def given (o : Overrides) : (k : Setting) → Option k.Content
  | .engine => o.engine
  | .connectionString => o.connectionString
  | .defaultSchema => o.defaultSchema
  | .logLevel => o.logLevel
  | .logFile => o.logFile
  | .maxPageSize => o.maxPageSize
  | .maxRowsPageSize => o.maxRowsPageSize
  | .maxQueryRows => o.maxQueryRows

/-- The overrides with one setting more. -/
def put (o : Overrides) : (k : Setting) → k.Content → Overrides
  | .engine, c => { o with engine := some c }
  | .connectionString, c => { o with connectionString := some c }
  | .defaultSchema, c => { o with defaultSchema := some c }
  | .logLevel, c => { o with logLevel := some c }
  | .logFile, c => { o with logFile := some c }
  | .maxPageSize, c => { o with maxPageSize := some c }
  | .maxRowsPageSize, c => { o with maxRowsPageSize := some c }
  | .maxQueryRows, c => { o with maxQueryRows := some c }

@[simp]
theorem given_put_self (o : Overrides) (k : Setting) (c : k.Content) :
    (o.put k c).given k = some c := by
  cases k <;> rfl

theorem given_put_of_ne (o : Overrides) {j k : Setting} (h : k ≠ j) (c : j.Content) :
    (o.put j c).given k = o.given k := by
  cases j <;> cases k <;> first | rfl | exact absurd rfl h

@[simp]
theorem given_empty (k : Setting) : given {} k = none := by
  cases k <;> rfl

/-- Overrides that give the same for every setting are the same. -/
theorem eq_of_given {o p : Overrides} (h : ∀ k, o.given k = p.given k) : o = p := by
  obtain ⟨_, _, _, _, _, _, _, _⟩ := o
  obtain ⟨_, _, _, _, _, _, _, _⟩ := p
  rw [Overrides.mk.injEq]
  exact ⟨h .engine, h .connectionString, h .defaultSchema, h .logLevel, h .logFile,
    h .maxPageSize, h .maxRowsPageSize, h .maxQueryRows⟩

/-- A setting is set to what its value converts to, if it converts. -/
theorem set_eq_map (o : Overrides) (k : Setting) (v : Value) :
    o.set k v = (k.convert v).map (o.put k) := by
  cases k <;> rfl

end Overrides

/-- What is given replaces what was there. -/
theorem Settings.content_apply (s : Settings) (o : Overrides) (k : Setting) :
    (s.apply o).content k = (o.given k).or (s.content k) := by
  have hplain {α : Type} (given : Option α) (a : α) :
      some (given.getD a) = given.or (some a) := by
    cases given <;> rfl
  have hfile {α : Type} (given before : Option α) : (given <|> before) = given.or before := by
    cases given <;> rfl
  cases k with
  | logFile => exact hfile _ _
  | _ => exact hplain _ _

/-! ### One pass -/

namespace Setting

/-- What a pass does to a setting for which a mapping gives a value: the value converts, and
    the setting is what it converts to. Without a value the setting stays as it was. -/
def Sets (k : Setting) (value : Option Value) (before after : Overrides) : Prop :=
  match value with
  | none => after.given k = before.given k
  | some v => ∃ c, k.convert v = .ok c ∧ after.given k = some c

variable {k : Setting} {key v : Value} {rest : List (Value × Value)}

/-- The entry of a setting gives its value. -/
theorem valueIn_cons_self (hv : v ≠ .null) : k.valueIn ((.text k.name, v) :: rest) = some v := by
  rw [valueIn_eq_some, Value.field, if_pos rfl]
  exact ⟨rfl, hv⟩

/-- An entry with another name gives a setting nothing. -/
theorem valueIn_cons_of_ne (hkey : key ≠ .text k.name) :
    k.valueIn ((key, v) :: rest) = k.valueIn rest := by
  rw [valueIn, valueIn, Value.field_cons_of_ne hkey]

/-- Behind the entry of a setting there is no other one for it. -/
theorem valueIn_of_distinctKeys (h : DistinctKeys ((.text k.name, v) :: rest)) :
    k.valueIn rest = none := by
  obtain ⟨hfirst, hrest⟩ := List.pairwise_cons.mp h
  refine Option.eq_none_iff_forall_ne_some.mpr fun w hw => ?_
  have hdistinct := hfirst _ ((valueIn_eq_some_iff hrest).mp hw).1
  exact absurd hdistinct (by simp [Value.equal])

/-- Only what a setting was before the pass counts. -/
theorem sets_congr {value : Option Value} {before early after : Overrides}
    (h : before.given k = early.given k) :
    k.Sets value before after ↔ k.Sets value early after := by
  cases value with
  | none => rw [Sets, Sets, h]
  | some v => exact Iff.rfl

/-- A pass that begins with the entry of a setting: the value converts, and the rest of the
    pass starts from what it converts to. -/
theorem forall_sets_cons_iff (hkeys : DistinctKeys ((.text k.name, v) :: rest)) (hv : v ≠ .null)
    {before after : Overrides} :
    (∀ j : Setting, j.Sets (j.valueIn ((.text k.name, v) :: rest)) before after) ↔
      ∃ c, k.convert v = .ok c ∧ ∀ j : Setting, j.Sets (j.valueIn rest) (before.put k c) after := by
  -- Nothing behind the entry sets `k` again, and nothing in the entry concerns the others.
  have hself (c : k.Content) :
      k.Sets (k.valueIn rest) (before.put k c) after ↔ after.given k = some c := by
    rw [valueIn_of_distinctKeys hkeys, Sets, Overrides.given_put_self]
  have hother {j : Setting} (hj : j ≠ k) (c : k.Content) :
      j.Sets (j.valueIn ((.text k.name, v) :: rest)) before after ↔
        j.Sets (j.valueIn rest) (before.put k c) after := by
    rw [valueIn_cons_of_ne fun h => hj (name_inj (Value.text.inj h)).symm]
    exact sets_congr (Overrides.given_put_of_ne before hj c).symm
  constructor
  · intro h
    obtain ⟨c, hc, hafter⟩ : ∃ c, k.convert v = .ok c ∧ after.given k = some c := by
      have hk := h k
      rwa [valueIn_cons_self hv] at hk
    refine ⟨c, hc, fun j => ?_⟩
    by_cases hj : j = k
    · rw [hj]
      exact (hself c).mpr hafter
    · exact (hother hj c).mp (h j)
  · rintro ⟨c, hc, h⟩ j
    by_cases hj : j = k
    · rw [hj, valueIn_cons_self hv]
      exact ⟨c, hc, (hself c).mp (h k)⟩
    · exact (hother hj c).mpr (h j)

end Setting

namespace Overrides

/-- What a pass over a mapping that ends well does: every name that is no setting has a text,
    and every setting is set by what the mapping gives for it. -/
def Reads (entries : List (Value × Value)) (before after : Overrides) : Prop :=
  (∀ entry ∈ entries, namesSetting entry = false → entry.1.isWritable = true) ∧
    ∀ k : Setting, k.Sets (k.valueIn entries) before after

section

variable {before after : Overrides} {k : Setting} {key v : Value} {rest : List (Value × Value)}

theorem reads_nil_iff : Reads [] before after ↔ before = after := by
  have hnone (k : Setting) :
      k.Sets (k.valueIn []) before after ↔ after.given k = before.given k := Iff.rfl
  simp only [Reads, List.not_mem_nil, false_implies, implies_true, true_and, hnone]
  exact ⟨fun h => eq_of_given fun k => (h k).symm, fun h k => h ▸ rfl⟩

/-- A name of no setting needs a text, and that is all. -/
theorem reads_unknown_iff (h : key.text?.bind Setting.ofName? = none) :
    Reads ((key, v) :: rest) before after ↔ key.isWritable = true ∧ Reads rest before after := by
  have hnames : namesSetting (key, v) = false := by
    rw [namesSetting, h]
    rfl
  have hkey (k : Setting) : key ≠ .text k.name := by
    rintro rfl
    exact absurd h (by simp [Value.text?, Setting.ofName?_name])
  simp only [Reads, List.forall_mem_cons, hnames, true_implies,
    Setting.valueIn_cons_of_ne (hkey _), and_assoc]

/-- The entry of a setting is no unknown name. -/
theorem forall_unknown_cons_iff {P : Value × Value → Prop} :
    (∀ entry ∈ (.text k.name, v) :: rest, namesSetting entry = false → P entry) ↔
      ∀ entry ∈ rest, namesSetting entry = false → P entry := by
  have hnames : namesSetting (.text k.name, v) ≠ false := by
    simp [namesSetting, Value.text?, Setting.ofName?_name]
  rw [List.forall_mem_cons]
  exact and_iff_right fun h => absurd h hnames

/-- An entry without a value does nothing. -/
theorem reads_null_iff (hkeys : DistinctKeys ((.text k.name, .null) :: rest)) :
    Reads ((.text k.name, .null) :: rest) before after ↔ Reads rest before after := by
  have hvalue (j : Setting) : j.valueIn ((.text k.name, .null) :: rest) = j.valueIn rest := by
    -- For `k` itself there is nothing on either side: null gives nothing, and no entry follows.
    by_cases hj : k.name = j.name
    · rw [Setting.name_inj hj] at hkeys ⊢
      rw [Setting.valueIn_of_distinctKeys hkeys, Setting.valueIn, Value.field, if_pos rfl]
    · exact Setting.valueIn_cons_of_ne fun h => hj (Value.text.inj h)
  simp only [Reads, forall_unknown_cons_iff, hvalue]

/-- The entry of a setting: the value converts, and the rest of the pass starts from what it
    converts to. -/
theorem reads_setting_iff (hkeys : DistinctKeys ((.text k.name, v) :: rest)) (hv : v ≠ .null) :
    Reads ((.text k.name, v) :: rest) before after ↔
      ∃ c, k.convert v = .ok c ∧ Reads rest (before.put k c) after := by
  rw [Reads, forall_unknown_cons_iff, Setting.forall_sets_cons_iff hkeys hv]
  exact ⟨fun ⟨hnames, c, hc, h⟩ => ⟨c, hc, hnames, h⟩,
    fun ⟨c, hc, hnames, h⟩ => ⟨hnames, c, hc, h⟩⟩

end

/-- The same entries for settings do the same, in whatever order and between whatever names. -/
theorem Reads.of_perm {entries others : List (Value × Value)} {before after : Overrides}
    (h : Reads entries before after) (hkeys : DistinctKeys entries)
    (hothers : DistinctKeys others)
    (hsame : (entries.filter namesSetting).Perm (others.filter namesSetting))
    (hnames : ∀ entry ∈ others, namesSetting entry = false → entry.1.isWritable = true) :
    Reads others before after :=
  ⟨hnames, fun k => Setting.valueIn_eq_of_perm hkeys hothers hsame k ▸ h.2 k⟩

/-- A pass that ends well has converted every value. -/
theorem Reads.converts {entries : List (Value × Value)} {before after : Overrides}
    (h : Reads entries before after) (hkeys : DistinctKeys entries) {k : Setting} {v : Value}
    (hmem : (.text k.name, v) ∈ entries) (hv : v ≠ .null) : ∃ c, k.convert v = .ok c := by
  have hset := h.2 k
  rw [(Setting.valueIn_eq_some_iff hkeys).mpr ⟨hmem, hv⟩] at hset
  exact hset.imp fun _ => And.left

/-- A pass over a mapping, setting by setting. By induction on the entries: the keys are
    distinct, so what one entry sets no later one sets again. -/
theorem readInto_eq_ok_iff {before after : Overrides} {entries : List (Value × Value)}
    (hkeys : DistinctKeys entries) :
    (before.readInto entries).2 = .ok after ↔ Reads entries before after := by
  induction entries generalizing before with
  | nil => rw [reads_nil_iff, readInto, Except.ok.injEq]
  | cons entry rest ih =>
      obtain ⟨key, v⟩ := entry
      have hrest : DistinctKeys rest := (List.pairwise_cons.mp hkeys).2
      -- The three kinds of entries, each of which `readInto` and `Reads` take off alike.
      rcases hsetting : key.text?.bind Setting.ofName? with _ | k
      · rw [readInto_unknown before v rest hsetting, reads_unknown_iff hsetting, Value.written]
        by_cases hwritable : key.isWritable = true
        · rw [if_pos hwritable, and_iff_right hwritable]
          exact ih hrest
        · rw [if_neg hwritable]
          exact ⟨fun h => absurd h (by simp), fun h => absurd h.1 hwritable⟩
      · obtain rfl := eq_name_of_setting hsetting
        by_cases hnull : v = .null
        · subst hnull
          rw [readInto_null, reads_null_iff hkeys]
          exact ih hrest
        · rw [readInto_setting before k rest hnull, reads_setting_iff hkeys hnull, set_eq_map]
          cases k.convert v with
          | error f =>
              constructor
              · exact fun h => absurd h (by simp [Except.map])
              · rintro ⟨c, hc, -⟩
                exact absurd hc (by simp)
          | ok c =>
              refine (ih hrest).trans ⟨fun h => ⟨c, rfl, h⟩, ?_⟩
              rintro ⟨d, hd, h⟩
              rwa [Except.ok.inj hd]

end Overrides

end SqlCatalog
