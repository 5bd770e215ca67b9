import SqlCatalog.Proofs.Settings.Entries

/-!
# How Bad Settings Are Refused

What a caller is told when settings cannot be used. Every value is checked on its own, and a
value that fails its check is refused with a configuration error that quotes it. Two things
come in between. An infinite number has no integer part, and taking it is a misuse that no
check turns into a refusal. And an integer of more than 4300 digits has no text, so neither
can it be taken as one, nor quoted in a refusal, nor shown when the settings are described.

`Unfit` collects these entries. They are exactly the ones that make the loading of a file end
in some other way: without any of them a file, whatever else it holds, is loaded or refused,
and a file with nothing but one of them is neither.

## Main definitions

* `Refuses`: An outcome that fails with configuration errors only.
* `Unfit`: An entry that is neither accepted nor refused.
* `Settings.Describable`: Settings whose numbers have a text.

## Theorems

* `Overrides.refuses_set`: A single value is accepted or refused, unless it is unfit.
* `Overrides.refuses_readInto`: So are the entries of a mapping.
* `Settings.isWritable_describe`: What the description of settings hangs on.
* `refuses_settings`: Settings are loaded or refused, unless the file has an unfit entry.
-/

namespace SqlCatalog

/-- The outcome is a result or a configuration error. -/
def Refuses {α : Type} (outcome : Outcome α) : Prop :=
  ∀ f, outcome = .error f → ∃ fault, f = .error (.configuration fault)

namespace Refuses

variable {α β : Type}

theorem ok (a : α) : Refuses (.ok a : Outcome α) :=
  fun _ h => absurd h (by simp)

theorem refuse (fault : ConfigurationFault) :
    Refuses (SqlCatalog.refuse (.configuration fault) : Outcome α) :=
  fun _ h => ⟨fault, (Except.error.inj h).symm⟩

/-- The same failure of another outcome. -/
theorem of_error {f : Failure} (h : Refuses (.error f : Outcome α)) :
    Refuses (.error f : Outcome β) :=
  fun g hg => h g (congrArg Except.error (Except.error.inj hg))

theorem map {outcome : Outcome α} (h : Refuses outcome) (f : α → β) :
    Refuses (outcome.map f) := by
  cases outcome with
  | ok a => exact ok (f a)
  | error failure => exact h.of_error

/-- A step that needs the text of a value, which has one. -/
theorem written {v : Value} (hv : v.isWritable = true) {f : String → Outcome β}
    (h : Refuses (f v.plain)) : Refuses (v.written >>= f) := by
  rw [Value.written, if_pos hv]
  exact h

end Refuses

/-! ### One entry -/

/-- Whether the value of a setting is a number. -/
def Setting.takesNumber : Setting → Bool
  | .maxPageSize | .maxRowsPageSize | .maxQueryRows => true
  | _ => false

/-- A value that is neither accepted nor refused for a setting: one without a text, and for a
    number also an infinite one or one that is too long to be shown. -/
def Setting.Unfit (setting : Setting) (v : Value) : Prop :=
  v.isWritable = false ∨ setting.takesNumber = true ∧
    ((∃ negative, v = .float (.infinite negative)) ∨
      ∃ n, v.integer = .ok n ∧ (Value.int n).isWritable = false)

/-- An entry that is neither accepted nor refused: a name without a text, which is that of no
    setting, or an unfit value for a setting. -/
def Unfit (entry : Value × Value) : Prop :=
  match entry.1.text?.bind Setting.ofName? with
  | none => entry.1.isWritable = false
  | some setting => setting.Unfit entry.2

theorem unfit_setting {setting : Setting} {v : Value} :
    Unfit (.text setting.name, v) ↔ setting.Unfit v := by
  have hname : (Value.text setting.name).text?.bind Setting.ofName? = some setting :=
    Setting.ofName?_name setting
  simp only [Unfit, hname]

theorem unfit_unknown {key v : Value} (h : key.text?.bind Setting.ofName? = none) :
    Unfit (key, v) ↔ key.isWritable = false := by
  simp only [Unfit, h]

namespace Value

/-- What has no text is there: nothing that counts as absent holds a long integer. -/
theorem isTruthy_of_not_isWritable {v : Value} (h : v.isWritable = false) :
    v.isTruthy = true := by
  cases v with
  | int n =>
      rw [isTruthy, bne_iff_ne]
      rintro rfl
      rw [isWritable, decide_eq_false_iff_not] at h
      exact h (Number.power_pos (by decide) _)
  | list items =>
      cases items with
      | nil => exact absurd h (by simp [isWritable, itemsWritable])
      | cons item rest => rfl
  | map entries =>
      cases entries with
      | nil => exact absurd h (by simp [isWritable, entriesWritable])
      | cons entry rest => rfl
  | _ => exact absurd h (by simp [isWritable])

end Value

namespace Overrides

theorem refuses_readEngine {v : Value} (hv : v.isWritable = true) : Refuses (readEngine v) := by
  refine .written hv ?_
  unfold Engine.parse
  dsimp only
  split
  · exact .ok _
  · exact .refuse _

theorem refuses_readLevel {v : Value} (hv : v.isWritable = true) : Refuses (readLevel v) := by
  refine .written hv ?_
  split
  · exact .ok _
  · exact .refuse _

theorem refuses_readSchema {v : Value} (hv : v.isWritable = true) : Refuses (readSchema v) := by
  unfold readSchema
  split
  · exact .ok _
  · refine .written hv ?_
    split
    · exact .ok _
    · exact .refuse _

/-- A number is accepted or refused, unless the value or the number it stands for has no
    text, or the value is infinite. -/
theorem refuses_readPositive {setting : Setting} {v : Value} (hv : v.isWritable = true)
    (hfinite : ∀ negative, v ≠ .float (.infinite negative))
    (hshort : ∀ n, v.integer = .ok n → (Value.int n).isWritable = true) :
    Refuses (readPositive setting v) := by
  unfold readPositive
  rcases v.integer_cases with ⟨n, hn⟩ | hkind | hunusable | ⟨negative, rfl⟩
  · rw [hn]
    dsimp only
    split
    · exact .written (hshort n hn) (.refuse _)
    · exact .ok _
  · rw [hkind]
    exact .written hv (.refuse _)
  · rw [hunusable]
    exact .written hv (.refuse _)
  · exact absurd rfl (hfinite negative)

/-- A value is accepted or refused for any setting for which it is not unfit. -/
theorem refuses_set (o : Overrides) {setting : Setting} {v : Value}
    (hfit : ¬setting.Unfit v) : Refuses (o.set setting v) := by
  have hv : v.isWritable = true := by
    rw [← Bool.not_eq_false]
    exact fun h => hfit (Or.inl h)
  have hpositive (hnumber : setting.takesNumber = true) : Refuses (readPositive setting v) := by
    refine refuses_readPositive hv
      (fun negative h => hfit (Or.inr ⟨hnumber, Or.inl ⟨negative, h⟩⟩)) fun n hn => ?_
    rw [← Bool.not_eq_false]
    exact fun h => hfit (Or.inr ⟨hnumber, Or.inr ⟨n, hn, h⟩⟩)
  cases setting with
  | engine => exact (refuses_readEngine hv).map _
  | connectionString | logFile =>
      rw [set, Value.written, if_pos hv]
      exact .ok _
  | defaultSchema => exact (refuses_readSchema hv).map _
  | logLevel => exact (refuses_readLevel hv).map _
  | maxPageSize | maxRowsPageSize | maxQueryRows => exact (hpositive rfl).map _

/-- The entries of a mapping are accepted or refused when none of them is unfit, by induction
    on the entries. -/
theorem refuses_readInto (o : Overrides) {entries : List (Value × Value)}
    (hfit : ∀ entry ∈ entries, ¬Unfit entry) : Refuses (o.readInto entries).2 := by
  induction entries generalizing o with
  | nil => exact .ok o
  | cons entry rest ih =>
      obtain ⟨key, v⟩ := entry
      have hfirst := hfit _ List.mem_cons_self
      have hrest (o : Overrides) : Refuses (o.readInto rest).2 :=
        ih o fun entry hentry => hfit entry (List.mem_cons_of_mem _ hentry)
      rcases hsetting : key.text?.bind Setting.ofName? with _ | setting
      · have hkey : key.isWritable = true := by
          rw [← Bool.not_eq_false]
          exact fun h => hfirst ((unfit_unknown hsetting).mpr h)
        rw [readInto_unknown o v rest hsetting, Value.written, if_pos hkey]
        exact hrest o
      · obtain rfl := eq_name_of_setting hsetting
        by_cases hnull : v = .null
        · rw [hnull, readInto_null]
          exact hrest o
        · rw [readInto_setting o setting rest hnull]
          have hset := refuses_set o (mt unfit_setting.mpr hfirst)
          rcases heq : o.set setting v with f | next
          · rw [heq] at hset
            exact hset.of_error
          · exact hrest next

end Overrides

/-! ### The description of settings -/

/-- The numbers among the settings. -/
def Settings.numbers (s : Settings) : List Int :=
  [s.maxPageSize, s.maxRowsPageSize, s.maxQueryRows]

/-- The numbers among the settings that are given. -/
def Overrides.numbers (o : Overrides) : List Int :=
  [o.maxPageSize, o.maxRowsPageSize, o.maxQueryRows].filterMap id

/-- The settings can be described: their numbers have a text. -/
def Settings.Describable (s : Settings) : Prop :=
  ∀ n ∈ s.numbers, (Value.int n).isWritable = true

/-- Texts always have a text, so the description of settings hangs on their numbers. -/
theorem Settings.isWritable_describe (s : Settings) :
    (Value.map (s.describe.map fun (name, v) => (.text name, v))).isWritable = true ↔
      s.Describable := by
  have hfile (file : Option String) : (Value.ofOption (file.map .text)).isWritable = true := by
    cases file <;> rfl
  simp only [describe, record, Setting.all, get, List.map_cons, List.map_nil, Value.isWritable,
    Value.entriesWritable, Bool.true_and, Bool.and_true, hfile, Describable, numbers,
    List.forall_mem_cons, List.not_mem_nil, false_implies, implies_true, and_true,
    Bool.and_eq_true, decide_eq_true_eq]

theorem Settings.describable_default : Describable {} := by
  unfold Describable
  decide +kernel

/-- Settings with overrides can be described when both can. -/
theorem Settings.Describable.apply {s : Settings} {o : Overrides} (hs : s.Describable)
    (ho : ∀ n ∈ o.numbers, (Value.int n).isWritable = true) : (s.apply o).Describable := by
  have hfield {n : Int} {given : Option Int} (hn : (Value.int n).isWritable = true)
      (hgiven : ∀ m, given = some m → (Value.int m).isWritable = true) :
      (Value.int (given.getD n)).isWritable = true := by
    cases given with
    | none => exact hn
    | some m => exact hgiven m rfl
  intro n hn
  simp only [numbers, Settings.apply, List.mem_cons, List.not_mem_nil, or_false] at hn
  rcases hn with rfl | rfl | rfl
  all_goals
    refine hfield (hs _ (by simp [numbers])) fun m hm => ho m ?_
    simp [Overrides.numbers, hm]

namespace Overrides

theorem mem_numbers {o : Overrides} {n : Int} :
    n ∈ o.numbers ↔
      o.maxPageSize = some n ∨ o.maxRowsPageSize = some n ∨ o.maxQueryRows = some n := by
  simp [numbers, eq_comm]

/-- A number that is accepted is the one that the value stands for. -/
theorem integer_of_readPositive {setting : Setting} {v : Value} {n : Int}
    (h : readPositive setting v = .ok n) : v.integer = .ok n := by
  have hquoting (v : Value) (fault : ConfigurationFault) :
      (refuseQuoting v fault : Outcome Int) ≠ .ok n := by
    rw [refuseQuoting, Value.written]
    split <;> simp [bind, Except.bind, refuse]
  unfold readPositive at h
  split at h
  · split at h
    · exact absurd h (hquoting _ _)
    · rename_i hn _
      rw [hn, h]
  · exact absurd h (hquoting _ _)
  · exact absurd h (hquoting _ _)
  · exact absurd h (by simp)

/-- A number that is set is what the value of a setting stands for. -/
theorem mem_numbers_of_set {o next : Overrides} {setting : Setting} {v : Value}
    (h : o.set setting v = .ok next) {n : Int} (hn : n ∈ next.numbers) :
    n ∈ o.numbers ∨ (setting.takesNumber = true ∧ v.integer = .ok n) := by
  cases setting with
  | engine | connectionString | defaultSchema | logLevel | logFile =>
      obtain ⟨a, -, rfl⟩ := map_eq_ok_iff.mp h
      exact Or.inl hn
  | maxPageSize | maxRowsPageSize | maxQueryRows =>
      obtain ⟨a, ha, rfl⟩ := map_eq_ok_iff.mp h
      by_cases heq : n = a
      · rw [heq]
        exact Or.inr ⟨rfl, integer_of_readPositive ha⟩
      · -- Another number was there before.
        left
        rw [mem_numbers] at hn ⊢
        grind

/-- The numbers that fit entries give have a text, by induction on the entries. -/
theorem isWritable_of_readInto {o next : Overrides} {entries : List (Value × Value)}
    (hfit : ∀ entry ∈ entries, ¬Unfit entry) (h : (o.readInto entries).2 = .ok next)
    (ho : ∀ n ∈ o.numbers, (Value.int n).isWritable = true) :
    ∀ n ∈ next.numbers, (Value.int n).isWritable = true := by
  induction entries generalizing o with
  | nil => rw [← Except.ok.inj h]; exact ho
  | cons entry rest ih =>
      obtain ⟨key, v⟩ := entry
      have hfirst := hfit _ List.mem_cons_self
      have hrest : ∀ entry ∈ rest, ¬Unfit entry :=
        fun entry hentry => hfit entry (List.mem_cons_of_mem _ hentry)
      rcases hsetting : key.text?.bind Setting.ofName? with _ | setting
      · rw [readInto_unknown o v rest hsetting] at h
        split at h
        · exact absurd h (by simp)
        · exact ih hrest h ho
      · obtain rfl := eq_name_of_setting hsetting
        by_cases hnull : v = .null
        · rw [hnull, readInto_null] at h
          exact ih hrest h ho
        · rw [readInto_setting o setting rest hnull] at h
          split at h
          · exact absurd h (by simp)
          · rename_i after hset
            refine ih hrest h fun n hn => ?_
            rcases mem_numbers_of_set hset hn with hold | ⟨hnumber, hinteger⟩
            · exact ho n hold
            · -- A number that this entry gave had no text only if the entry were unfit.
              rw [← Bool.not_eq_false]
              exact fun hlong => hfirst
                (unfit_setting.mpr (Or.inr ⟨hnumber, Or.inr ⟨n, hinteger, hlong⟩⟩))

end Overrides

/-! ### Loading -/

namespace Settings

theorem refuses_fileEntries (read : String → Option Document) (path : String) :
    Refuses (fileEntries read path) := by
  unfold fileEntries
  dsimp only
  split
  · exact .refuse _
  · exact .refuse _
  · exact .refuse _
  · exact .ok _

theorem read_of_fileEntries {read : String → Option Document} {path : String}
    {entries : List (Value × Value)} (h : fileEntries read path = .ok entries) :
    read (Text.tidyPath path) = some (.mapping entries) := by
  unfold fileEntries at h
  dsimp only at h
  split at h
  · exact absurd h (by simp [refuse])
  · exact absurd h (by simp [refuse])
  · exact absurd h (by simp [refuse])
  · rename_i hread
    rw [hread, Except.ok.inj h]

/-- The environment gives texts, and none of them for a number. -/
theorem not_unfit_of_environment {env : Environment} {entry : Value × Value}
    (h : entry ∈ environmentEntries env) : ¬Unfit entry := by
  obtain ⟨setting, hsetting, s, rfl⟩ := mem_environmentEntries h
  rw [unfit_setting]
  rintro (hlong | ⟨hnumber, -⟩)
  · exact absurd hlong (by simp [Value.isWritable])
  · have htexts : ∀ setting ∈ variableNames.map (·.2), setting.takesNumber = false := by decide
    rw [htexts setting hsetting] at hnumber
    exact absurd hnumber (by simp)

/-- Settings that can be described can be so after fit entries. -/
theorem Describable.apply_read {s : Settings} (hs : s.Describable)
    {entries : List (Value × Value)} (hfit : ∀ entry ∈ entries, ¬Unfit entry) {o : Overrides}
    (h : (Overrides.read entries).2 = .ok o) : (s.apply o).Describable :=
  hs.apply (Overrides.isWritable_of_readInto hfit h (by simp [Overrides.numbers]))

theorem refuses_applyFile {s : Settings} (hs : s.Describable)
    {read : String → Option Document} {path : String}
    (hfit : ∀ entries, read (Text.tidyPath path) = some (.mapping entries) →
      ∀ entry ∈ entries, ¬Unfit entry) :
    Refuses (s.applyFile read path).2 ∧
      ∀ t, (s.applyFile read path).2 = .ok t → t.Describable := by
  have hentries := refuses_fileEntries read path
  unfold applyFile
  split
  · exact ⟨.ok _, fun t h => Except.ok.inj h ▸ hs⟩
  · rcases hfile : fileEntries read path with f | entries
    · rw [hfile] at hentries
      exact ⟨hentries.of_error, fun t h => absurd h (by simp)⟩
    · have hgiven := hfit entries (read_of_fileEntries hfile)
      have hread := Overrides.refuses_readInto {} hgiven
      have happly (o : Overrides) := hs.apply_read (o := o) hgiven
      dsimp only
      unfold Overrides.read at happly ⊢
      rcases heq : Overrides.readInto {} entries with ⟨logs, f | o⟩
      · rw [heq] at hread
        exact ⟨hread.of_error, fun t h => absurd h (by simp)⟩
      · rw [heq] at happly
        exact ⟨.ok _, fun t h => Except.ok.inj h ▸ happly o rfl⟩

theorem refuses_applyEnvironment {s : Settings} (hs : s.Describable) (env : Environment) :
    Refuses (s.applyEnvironment env).2 := by
  have hfit (entry : Value × Value) (h : entry ∈ environmentEntries env) : ¬Unfit entry :=
    not_unfit_of_environment h
  have hread := Overrides.refuses_readInto {} hfit
  have happly (o : Overrides) := hs.apply_read (o := o) hfit
  unfold applyEnvironment
  unfold Overrides.read at happly ⊢
  rcases heq : Overrides.readInto {} (environmentEntries env) with ⟨logs, f | o⟩
  · rw [heq] at hread
    exact hread.of_error
  · -- The settings are complete now, and what is left is to describe them.
    rw [heq] at happly
    dsimp only
    rw [Value.written, if_pos ((isWritable_describe _).mpr (happly o rfl))]
    exact .ok _

/-- Settings are loaded or refused when no entry of the file is unfit. -/
theorem refuses_load {read : String → Option Document} {path : String} (env : Environment)
    (hfit : ∀ entries, read (Text.tidyPath path) = some (.mapping entries) →
      ∀ entry ∈ entries, ¬Unfit entry) : Refuses (load read path env).2 := by
  obtain ⟨hfile, hdescribable⟩ := refuses_applyFile describable_default hfit
  unfold load
  rcases heq : applyFile {} read path with ⟨logs, f | s⟩
  · rw [heq] at hfile
    exact hfile.of_error
  · rw [heq] at hdescribable
    exact refuses_applyEnvironment (hdescribable s rfl) env

end Settings

/-! ### Unfit entries -/

/-- A value without a text is a long integer, or it stands for none. -/
theorem Value.integer_of_not_isWritable {v : Value} (h : v.isWritable = false) :
    v.integer = .error (.misuse .wrongKind) ∨ ∃ n, v = .int n := by
  cases v with
  | int n => exact Or.inr ⟨n, rfl⟩
  | list | map => exact Or.inl rfl
  | _ => exact absurd h (by simp [isWritable])

namespace Overrides

/-- A refusal that cannot quote its value is a misuse. -/
theorem refuseQuoting_of_not_isWritable {α : Type} {v : Value} (h : v.isWritable = false)
    (fault : ConfigurationFault) :
    (refuseQuoting v fault : Outcome α) = .error (.misuse .unusable) := by
  rw [refuseQuoting, Value.written, if_neg (by simp [h])]
  rfl

/-- An unfit number is a misuse, or it is accepted and cannot be shown afterwards. -/
theorem readPositive_of_unfit {setting : Setting} {v : Value} (h : setting.Unfit v) :
    (∃ m, readPositive setting v = .error (.misuse m)) ∨
      ∃ n, readPositive setting v = .ok n ∧ (Value.int n).isWritable = false := by
  have hlong {n : Int} (hn : v.integer = .ok n) (hshown : (Value.int n).isWritable = false) :
      (∃ m, readPositive setting v = .error (.misuse m)) ∨
        ∃ n, readPositive setting v = .ok n ∧ (Value.int n).isWritable = false := by
    rw [readPositive, hn]
    dsimp only
    split
    · exact Or.inl ⟨_, refuseQuoting_of_not_isWritable hshown _⟩
    · exact Or.inr ⟨n, rfl, hshown⟩
  rcases h with hv | ⟨-, ⟨negative, rfl⟩ | ⟨n, hn, hshown⟩⟩
  · rcases Value.integer_of_not_isWritable hv with hkind | ⟨n, rfl⟩
    · left
      rw [readPositive, hkind]
      exact ⟨_, refuseQuoting_of_not_isWritable hv _⟩
    · exact hlong rfl hv
  · exact Or.inl ⟨.unbounded, rfl⟩
  · exact hlong hn hshown

/-- An unfit value is a misuse, or it is accepted and cannot be shown afterwards. -/
theorem set_of_unfit {setting : Setting} {v : Value} (o : Overrides) (h : setting.Unfit v) :
    (∃ m, o.set setting v = .error (.misuse m)) ∨
      ∃ next, o.set setting v = .ok next ∧
        ∃ n ∈ next.numbers, (Value.int n).isWritable = false := by
  -- Where no number is taken, only what has no text is unfit.
  have htext (hnumber : setting.takesNumber = false) : v.isWritable = false := by
    rcases h with hv | ⟨hnot, -⟩
    · exact hv
    · rw [hnumber] at hnot
      exact absurd hnot (by simp)
  have hwritten (hv : v.isWritable = false) : v.written = .error (.misuse .unusable) := by
    rw [Value.written, if_neg (by simp [hv])]
  cases setting with
  | engine =>
      left
      rw [set, readEngine, hwritten (htext rfl)]
      exact ⟨_, rfl⟩
  | connectionString | logFile =>
      left
      rw [set, hwritten (htext rfl)]
      exact ⟨_, rfl⟩
  | defaultSchema =>
      left
      rw [set, readSchema, Value.isTruthy_of_not_isWritable (htext rfl), hwritten (htext rfl)]
      exact ⟨_, rfl⟩
  | logLevel =>
      left
      rw [set, readLevel, hwritten (htext rfl)]
      exact ⟨_, rfl⟩
  | maxPageSize | maxRowsPageSize | maxQueryRows =>
      rw [set]
      rcases readPositive_of_unfit h with ⟨m, hm⟩ | ⟨n, hn, hshown⟩
      · rw [hm]
        exact Or.inl ⟨m, rfl⟩
      · rw [hn]
        exact Or.inr ⟨_, rfl, n, by rw [mem_numbers]; simp, hshown⟩

end Overrides

/-- Settings with a number that cannot be shown cannot be described. -/
theorem Settings.not_describable_apply {s : Settings} {o : Overrides} {n : Int}
    (hn : n ∈ o.numbers) (h : (Value.int n).isWritable = false) : ¬(s.apply o).Describable := by
  intro hall
  have hmem : n ∈ (s.apply o).numbers := by
    rw [Overrides.mem_numbers] at hn
    rcases hn with hn | hn | hn <;> simp [numbers, Settings.apply, hn]
  rw [hall n hmem] at h
  exact absurd h (by simp)

namespace Settings

/-- A file that holds one entry. -/
def singleEntry (entry : Value × Value) : String → Option Document :=
  fun _ => some (.mapping [entry])

/-- A file that holds nothing but an unfit entry is neither loaded nor refused. -/
theorem misuse_of_unfit {entry : Value × Value} (h : Unfit entry) :
    ∃ m, (load (singleEntry entry) "config.yaml" []).2 = .error (.misuse m) := by
  obtain ⟨key, v⟩ := entry
  have hfile : fileEntries (singleEntry (key, v)) "config.yaml" = .ok [(key, v)] := rfl
  have hpath : ¬"config.yaml" = "" := by decide
  have henv : Overrides.read (environmentEntries []) = ([], .ok {}) := rfl
  rcases hsetting : key.text?.bind Setting.ofName? with _ | setting
  · have hread : Overrides.read [(key, v)] = ([], .error (.misuse .unusable)) := by
      rw [Overrides.read, Overrides.readInto_unknown {} v [] hsetting, Value.written,
        if_neg (by simp [(unfit_unknown hsetting).mp h])]
    exact ⟨.unusable, by simp only [load, applyFile, if_neg hpath, hfile, hread]⟩
  · obtain rfl := eq_name_of_setting hsetting
    rw [unfit_setting] at h
    have hnull : v ≠ .null := by
      rintro rfl
      rcases h with hv | ⟨-, ⟨negative, hv⟩ | ⟨n, hn, -⟩⟩
      · exact absurd hv (by simp [Value.isWritable])
      · exact absurd hv (by simp)
      · exact absurd hn (by simp [Value.integer])
    have hset := Overrides.readInto_setting {} setting [] hnull
    rcases Overrides.set_of_unfit {} h with ⟨m, hm⟩ | ⟨next, hnext, n, hn, hshown⟩
    · have hread : Overrides.read [(.text setting.name, v)] = ([], .error (.misuse m)) := by
        rw [Overrides.read, hset, hm]
      exact ⟨m, by simp only [load, applyFile, if_neg hpath, hfile, hread]⟩
    · -- The number is accepted, and describing the settings fails in the end.
      have hread : Overrides.read [(.text setting.name, v)] = ([], .ok next) := by
        rw [Overrides.read, hset, hnext]
        rfl
      have hdescribe : ¬((apply {} next).apply {}).Describable :=
        not_describable_apply (s := {}) hn hshown
      rw [← isWritable_describe] at hdescribe
      refine ⟨.unusable, ?_⟩
      simp only [load, applyFile, if_neg hpath, hfile, hread, applyEnvironment, henv,
        Value.written, if_neg hdescribe]

end Settings

/-! ### All settings -/

/-- Settings are read and loaded, or refused with a configuration error, whatever the mapping
    of the file and the environment hold, when no entry of the mapping is unfit. Nothing less
    will do: a file with an unfit entry alone is neither loaded nor refused. -/
theorem refuses_settings (entries : List (Value × Value)) (read : String → Option Document)
    (path : String) (env : Environment) (alone : Value × Value) :
    ((∀ entry ∈ entries, ¬Unfit entry) → Refuses (Overrides.read entries).2) ∧
    ((∀ entries, read (Text.tidyPath path) = some (.mapping entries) →
        ∀ entry ∈ entries, ¬Unfit entry) →
      Refuses (Settings.load read path env).2) ∧
    (Unfit alone →
      ¬Refuses (Settings.load (Settings.singleEntry alone) "config.yaml" []).2) := by
  refine ⟨Overrides.refuses_readInto {}, Settings.refuses_load env, fun hunfit hrefuses => ?_⟩
  obtain ⟨m, hm⟩ := Settings.misuse_of_unfit hunfit
  obtain ⟨fault, hfault⟩ := hrefuses _ hm
  exact absurd hfault (by simp)

/-- Settings of odd kinds, all of them fit: an infinite number under a name that is passed
    over, a truth value for a number, and something that is not a number for another. -/
def oddSettings : List (Value × Value) :=
  [(.text "theme", .float (.infinite false)), (.text "max_page_size", .bool true),
    (.text "max_query_rows", .float .nan)]

/-- Odd settings are refused in the reading and in the loading. -/
theorem refuses_oddSettings :
    (∀ entry ∈ oddSettings, ¬Unfit entry) ∧
      Refuses (Overrides.read oddSettings).2 ∧
      Refuses (Settings.load (fun _ => some (.mapping oddSettings)) "config.yaml"
        [("DB_DRIVER", "pg")]).2 ∧
      (Overrides.read oddSettings).2 =
        .error (.error (.configuration (.notInteger "max_query_rows" (.float .nan)))) := by
  have hfit : ∀ entry ∈ oddSettings, ¬Unfit entry := by
    intro entry hentry
    simp only [oddSettings, List.mem_cons, List.not_mem_nil, or_false] at hentry
    rcases hentry with rfl | rfl | rfl
    · rw [unfit_unknown rfl]
      simp [Value.isWritable]
    · rw [show "max_page_size" = Setting.maxPageSize.name from rfl, unfit_setting]
      rintro (h | ⟨-, ⟨negative, h⟩ | ⟨n, hn, h⟩⟩)
      · exact absurd h (by simp [Value.isWritable])
      · exact absurd h (by simp)
      · rw [← Except.ok.inj hn] at h
        exact absurd h (by decide +kernel)
    · rw [show "max_query_rows" = Setting.maxQueryRows.name from rfl, unfit_setting]
      rintro (h | ⟨-, ⟨negative, h⟩ | ⟨n, hn, h⟩⟩)
      · exact absurd h (by simp [Value.isWritable])
      · exact absurd h (by simp)
      · exact absurd hn (by simp [Value.integer, Value.integer.ofReading, Binary64.truncate?])
  obtain ⟨hread, hload, -⟩ := refuses_settings oddSettings (fun _ => some (.mapping oddSettings))
    "config.yaml" [("DB_DRIVER", "pg")] (.null, .null)
  refine ⟨hfit, hread hfit, hload fun entries h => ?_, rfl⟩
  obtain rfl : oddSettings = entries := by simpa using h
  exact hfit

/-- An infinite number for a setting is no configuration error, neither when its mapping is
    read nor when a file that holds nothing else is loaded. -/
theorem infinite_number_is_misuse :
    (Overrides.read [(.text "max_page_size", .float (.infinite false))]).2 =
        .error (.misuse .unbounded) ∧
      (Settings.load (Settings.singleEntry (.text "max_page_size", .float (.infinite false)))
        "config.yaml" []).2 = .error (.misuse .unbounded) ∧
      ¬Refuses (Overrides.read [(.text "max_page_size", .float (.infinite false))]).2 := by
  have hread : (Overrides.read [(.text "max_page_size", .float (.infinite false))]).2 =
      .error (.misuse .unbounded) := rfl
  refine ⟨hread, rfl, fun hrefuses => ?_⟩
  obtain ⟨fault, hfault⟩ := hrefuses _ hread
  exact absurd hfault (by simp)

end SqlCatalog
