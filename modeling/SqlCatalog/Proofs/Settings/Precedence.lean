import SqlCatalog.Proofs.Settings.Conversions

/-!
# Which Source a Setting Comes From

A setting comes from the environment where its variable is not empty, or else from the file
where its value is not null, or else it is the default. The program gets there in two passes,
one over the entries of the file and one over those of the environment, of which the second
has the last word.

A file is read in full before the environment is looked at. So a value that stands for nothing
ends the load even where the environment would take its place.

## Main definitions

* `Settings.givenByFile`: The mapping that a file gives.
* `Settings.Follows`: A setting comes from the first source that gives it.
* `Settings.Valid`: What settings are always like.

## Theorems

* `Settings.distinctKeys_of_givenByFile`: The keys of a file are distinct.
* `Settings.load_eq_ok_iff`: When a load ends well, and how.
* `Settings.load_of_not_standsFor`: A value that stands for nothing ends the load.
* `Settings.follows_of_reads`: The second pass has the last word.
* `settings_follow_precedence`: Settings follow the order of the sources and are valid.
-/

namespace SqlCatalog

/-! ### Loading -/

namespace Settings

/-- The mapping that the file at a path gives; no path gives an empty one. -/
def givenByFile (read : String → Option Document) (path : String) :
    Outcome (List (Value × Value)) :=
  if path = "" then .ok [] else fileEntries read path

/-- A file that is read as a document gives a mapping with distinct keys. -/
theorem distinctKeys_of_givenByFile {texts : String → Option String} {path : String}
    {entries : List (Value × Value)}
    (h : givenByFile (fun p => (texts p).map Document.ofText) path = .ok entries) :
    DistinctKeys entries := by
  unfold givenByFile at h
  split at h
  · rw [← Except.ok.inj h]
    exact .nil
  · obtain ⟨text, -, hdocument⟩ := Option.map_eq_some_iff.mp (read_of_fileEntries h)
    exact Document.distinctKeys_ofText hdocument

theorem apply_empty (s : Settings) : s.apply {} = s :=
  eq_of_content fun k => by rw [content_apply, Overrides.given_empty, Option.none_or]

variable {read : String → Option Document} {path : String} {entries : List (Value × Value)}
  {env : Environment} {s t : Settings}

/-- The pass over the file. -/
theorem applyFile_eq_ok_iff (hfile : givenByFile read path = .ok entries)
    (hkeys : DistinctKeys entries) :
    (s.applyFile read path).2 = .ok t ↔ ∃ o, Overrides.Reads entries {} o ∧ s.apply o = t := by
  have hresult : (s.applyFile read path).2 = (Overrides.read entries).2.map s.apply := by
    unfold givenByFile at hfile
    unfold applyFile
    split
    · rename_i hpath
      rw [if_pos hpath] at hfile
      rw [← Except.ok.inj hfile]
      exact congrArg Except.ok s.apply_empty.symm
    · rename_i hpath
      rw [if_neg hpath] at hfile
      rw [hfile]
      dsimp only
      rcases Overrides.read entries with ⟨logs, f | o⟩ <;> rfl
  rw [hresult, map_eq_ok_iff]
  exact exists_congr fun o => and_congr_left fun _ => Overrides.readInto_eq_ok_iff hkeys

/-- The pass over the environment. The settings that result have to be described. -/
theorem applyEnvironment_eq_ok_iff :
    (s.applyEnvironment env).2 = .ok t ↔
      t.Describable ∧ ∃ o, Overrides.Reads (environmentEntries env) {} o ∧ s.apply o = t := by
  have hresult : (s.applyEnvironment env).2 = .ok t ↔
      t.Describable ∧ (Overrides.read (environmentEntries env)).2.map s.apply = .ok t := by
    unfold applyEnvironment
    rcases Overrides.read (environmentEntries env) with ⟨logs, f | o⟩
    · exact ⟨fun h => absurd h (by simp), fun h => absurd h.2 (by simp [Except.map])⟩
    · dsimp only
      rw [Value.written, Except.map, Except.ok.injEq]
      by_cases hdescribe : (s.apply o).Describable
      · rw [if_pos ((isWritable_describe _).mpr hdescribe), Except.ok.injEq]
        exact ⟨fun h => ⟨h ▸ hdescribe, h⟩, And.right⟩
      · rw [if_neg (mt (isWritable_describe _).mp hdescribe)]
        exact ⟨fun h => absurd h (by simp), fun h => absurd (h.2 ▸ h.1) hdescribe⟩
  rw [hresult, map_eq_ok_iff]
  exact and_congr_right fun _ => exists_congr fun o => and_congr_left fun _ =>
    Overrides.readInto_eq_ok_iff (distinctKeys_environmentEntries env)

/-- The environment sets every setting by the text that it gives for it. -/
theorem reads_environmentEntries_iff {before after : Overrides} :
    Overrides.Reads (environmentEntries env) before after ↔
      ∀ k : Setting, k.Sets ((k.textIn env).map .text) before after := by
  have hnames : ∀ entry ∈ environmentEntries env, namesSetting entry = false →
      entry.1.isWritable = true := by
    intro entry hentry hunknown
    obtain ⟨k, -, s, rfl⟩ := mem_environmentEntries hentry
    rfl
  simp only [Overrides.Reads, ← valueIn_environmentEntries]
  exact and_iff_right hnames

/-- A load ends with an error of the file, or else it goes on with the environment. -/
theorem load_cases (read : String → Option Document) (path : String) (env : Environment) :
    (∃ f, (applyFile {} read path).2 = .error f ∧ (load read path env).2 = .error f) ∨
      ∃ s, (applyFile {} read path).2 = .ok s ∧
        (load read path env).2 = (s.applyEnvironment env).2 := by
  unfold load
  rcases applyFile {} read path with ⟨logs, f | s⟩
  · exact Or.inl ⟨f, rfl, rfl⟩
  · exact Or.inr ⟨s, rfl, rfl⟩

/-- A load, pass by pass. -/
theorem load_eq_ok_iff (hfile : givenByFile read path = .ok entries)
    (hkeys : DistinctKeys entries) :
    (load read path env).2 = .ok t ↔ t.Describable ∧ ∃ fromFile fromEnv,
      Overrides.Reads entries {} fromFile ∧ Overrides.Reads (environmentEntries env) {} fromEnv ∧
        (apply {} fromFile).apply fromEnv = t := by
  rcases load_cases read path env with ⟨f, happlied, hload⟩ | ⟨s, happlied, hload⟩
  · rw [hload]
    refine ⟨fun h => absurd h (by simp), fun ⟨_, fromFile, fromEnv, hread, _⟩ => ?_⟩
    rw [(applyFile_eq_ok_iff hfile hkeys).mpr ⟨fromFile, hread, rfl⟩] at happlied
    exact absurd happlied (by simp)
  · -- The file gave settings, so the load is what the environment makes of them.
    rw [hload, applyEnvironment_eq_ok_iff]
    refine and_congr_right fun _ => ⟨fun ⟨fromEnv, hread, ht⟩ => ?_, fun h => ?_⟩
    · obtain ⟨fromFile, hfirst, rfl⟩ := (applyFile_eq_ok_iff hfile hkeys).mp happlied
      exact ⟨fromFile, fromEnv, hfirst, hread, ht⟩
    · obtain ⟨fromFile, fromEnv, hfirst, hread, ht⟩ := h
      have hsame : (applyFile {} read path).2 = .ok (apply {} fromFile) :=
        (applyFile_eq_ok_iff hfile hkeys).mpr ⟨fromFile, hfirst, rfl⟩
      rw [happlied, Except.ok.injEq] at hsame
      exact ⟨fromEnv, hread, hsame ▸ ht⟩

/-- A value that stands for nothing ends the load, with the same error in every environment. -/
theorem load_of_not_standsFor (hfile : givenByFile read path = .ok entries)
    (hkeys : DistinctKeys entries) {k : Setting} {v : Value}
    (hmem : (.text k.name, v) ∈ entries) (hv : v ≠ .null) (hnothing : ∀ c, ¬k.StandsFor v c) :
    ∃ g, ∀ env, (load read path env).2 = .error g := by
  -- The pass over the file knows no environment, so its error is the same in all of them.
  cases happlied : (applyFile {} read path).2 with
  | error g =>
      refine ⟨g, fun env => ?_⟩
      rcases load_cases read path env with ⟨f, hf, hload⟩ | ⟨s, hs, -⟩
      · rw [hload, ← hf, happlied]
      · exact absurd (happlied.symm.trans hs) (by simp)
  | ok s =>
      obtain ⟨o, hread, -⟩ := (applyFile_eq_ok_iff hfile hkeys).mp happlied
      obtain ⟨c, hc⟩ := hread.converts hkeys hmem hv
      exact absurd (Setting.convert_eq_ok_iff.mp hc) (hnothing c)

/-! ### The order of the sources -/

/-- A setting is what the first source that gives it says: its variable when that is not empty,
    then the file when the value there is not null, then the default. -/
inductive Follows (s : Settings) (entries : List (Value × Value)) (env : Environment)
    (k : Setting) : Prop
  | environment {text : String} {c : k.Content} (htext : k.textIn env = some text)
      (hc : k.StandsFor (.text text) c) (hs : s.content k = some c)
  | file {v : Value} {c : k.Content} (hunset : k.textIn env = none)
      (hmem : (.text k.name, v) ∈ entries) (hv : v ≠ .null) (hc : k.StandsFor v c)
      (hs : s.content k = some c)
  | default (hunset : k.textIn env = none)
      (hnull : ∀ v, (.text k.name, v) ∈ entries → v = .null) (hs : s.content k = k.default)

/-- After both passes every setting is what the first source that gives it says. -/
theorem follows_of_reads {fromFile fromEnv : Overrides} (hkeys : DistinctKeys entries)
    (hfile : Overrides.Reads entries {} fromFile)
    (henv : Overrides.Reads (environmentEntries env) {} fromEnv) (k : Setting) :
    ((apply {} fromFile).apply fromEnv).Follows entries env k := by
  have hfirst := hfile.2 k
  have hsecond := reads_environmentEntries_iff.mp henv k
  -- What the second pass sets stands before what the first one sets, and that before the default.
  have hcontent : ((apply {} fromFile).apply fromEnv).content k =
      (fromEnv.given k).or ((fromFile.given k).or k.default) := by
    rw [content_apply, content_apply, content_default]
  cases htext : k.textIn env with
  | some text =>
      rw [htext] at hsecond
      obtain ⟨c, hc, hgiven⟩ := hsecond
      refine .environment htext (Setting.convert_eq_ok_iff.mp hc) ?_
      rw [hcontent, hgiven, Option.some_or]
  | none =>
      rw [htext] at hsecond
      replace hsecond : fromEnv.given k = none := hsecond.trans (Overrides.given_empty k)
      rw [hsecond, Option.none_or] at hcontent
      cases hvalue : k.valueIn entries with
      | some v =>
          rw [hvalue] at hfirst
          obtain ⟨c, hc, hgiven⟩ := hfirst
          obtain ⟨hmem, hv⟩ := (Setting.valueIn_eq_some_iff hkeys).mp hvalue
          refine .file htext hmem hv (Setting.convert_eq_ok_iff.mp hc) ?_
          rw [hcontent, hgiven, Option.some_or]
      | none =>
          rw [hvalue] at hfirst
          refine .default htext (fun v hmem => by_contra fun hv => ?_) ?_
          · rw [(Setting.valueIn_eq_some_iff hkeys).mpr ⟨hmem, hv⟩] at hvalue
            exact absurd hvalue (by simp)
          · rw [hcontent, hfirst.trans (Overrides.given_empty k), Option.none_or]

/-- What holds of the default of a setting and of whatever a value stands for holds of the
    setting. -/
theorem Follows.content {k : Setting} (h : s.Follows entries env k) {P : k.Content → Prop}
    (hdefault : ∀ c, k.default = some c → P c) (hstands : ∀ v c, k.StandsFor v c → P c)
    {c : k.Content} (hc : s.content k = some c) : P c := by
  cases h with
  | environment _ hd hs | file _ _ _ hd hs =>
      rw [Option.some.inj (hc.symm.trans hs)]
      exact hstands _ _ hd
  | default _ _ hs => exact hdefault c (hs.symm.trans hc)

end Settings

/-! ### Valid settings -/

namespace Settings

/-- What settings are like, wherever they come from. -/
structure Valid (s : Settings) : Prop where
  defaultSchema : s.defaultSchema = "" ∨ IsSchemaName s.defaultSchema
  logLevel : s.logLevel.name ∈ ["DEBUG", "INFO", "WARNING", "ERROR", "CRITICAL"]
  maxPageSize : 1 ≤ s.maxPageSize
  maxRowsPageSize : 1 ≤ s.maxRowsPageSize
  maxQueryRows : 1 ≤ s.maxQueryRows

/-- Settings that follow the sources are valid: what a value stands for passes the checks, and so
    do the defaults. -/
theorem Valid.of_follows {s : Settings} {entries : List (Value × Value)} {env : Environment}
    (h : ∀ k, s.Follows entries env k) : s.Valid where
  defaultSchema :=
    (h .defaultSchema).content (fun _ hc => Or.inl (Option.some.inj hc).symm)
      (fun _ _ hc => hc.imp And.right fun hname => hname.2.2.2) rfl
  logLevel := by cases s.logLevel <;> decide
  maxPageSize :=
    (h .maxPageSize).content (fun _ hc => Option.some.inj hc ▸ by decide) (fun _ _ => And.right) rfl
  maxRowsPageSize :=
    (h .maxRowsPageSize).content (fun _ hc => Option.some.inj hc ▸ by decide)
      (fun _ _ => And.right) rfl
  maxQueryRows :=
    (h .maxQueryRows).content (fun _ hc => Option.some.inj hc ▸ by decide)
      (fun _ _ => And.right) rfl

end Settings

/-! ### All settings -/

/-- Settings follow the order of the sources and are valid, whatever the file and the
    environment hold, and another file with the same entries for settings gives the same, if
    only its other names have a text. A value of the file that stands for nothing ends the load
    in every environment, one that gives the setting included. -/
theorem settings_follow_precedence {read : String → Option Document} {path : String}
    {entries : List (Value × Value)} (hfile : Settings.givenByFile read path = .ok entries)
    (hkeys : DistinctKeys entries) (env : Environment) :
    (∀ s, (Settings.load read path env).2 = .ok s →
      (∀ k, s.Follows entries env k) ∧ s.Valid ∧
      ∀ otherRead otherPath others, Settings.givenByFile otherRead otherPath = .ok others →
        DistinctKeys others →
        (entries.filter namesSetting).Perm (others.filter namesSetting) →
        ((Settings.load otherRead otherPath env).2 = .ok s ↔
          ∀ entry ∈ others, namesSetting entry = false → entry.1.isWritable = true)) ∧
    ∀ (k : Setting) v, (.text k.name, v) ∈ entries → v ≠ .null → (∀ c, ¬k.StandsFor v c) →
      ∃ g, ∀ env, (Settings.load read path env).2 = .error g := by
  refine ⟨fun s hload => ?_, fun k v => Settings.load_of_not_standsFor hfile hkeys⟩
  obtain ⟨hdescribe, fromFile, fromEnv, hfirst, hsecond, rfl⟩ :=
    (Settings.load_eq_ok_iff hfile hkeys).mp hload
  have hfollows := Settings.follows_of_reads hkeys hfirst hsecond
  refine ⟨hfollows, .of_follows hfollows, ?_⟩
  intro otherRead otherPath others hotherFile hothers hsame
  rw [Settings.load_eq_ok_iff hotherFile hothers]
  constructor
  · rintro ⟨-, _, _, hother, -⟩
    exact hother.1
  · intro hnames
    exact ⟨hdescribe, fromFile, fromEnv, hfirst.of_perm hkeys hothers hsame hnames, hsecond, rfl⟩

/-- A file with names and numbers as people write them, with a name that is no setting, and with a
    setting without a value. -/
def reportingEntries : List (Value × Value) :=
  [(.text "default_schema", .text "reporting"), (.text "theme", .text "dark"),
    (.text "driver", .text "PG"), (.text "log_level", .text " debug"),
    (.text "max_page_size", .text " 1_50 "),
    (.text "max_query_rows", .float (.finite false 501 (-1))), (.text "log_file", .null)]

/-- A file with a schema that is no name. -/
def misnamedEntries : List (Value × Value) :=
  [(.text "max_page_size", .int 50), (.text "default_schema", .text "my schema")]

/-- A file with a driver that no engine has. -/
def undrivenEntries : List (Value × Value) :=
  [(.text "driver", .text "mongodb"), (.text "log_level", .text "INFO")]

/-- An environment that gives a driver and a schema, and a severity in an empty text. -/
def auditEnvironment : Environment :=
  [("DB_DRIVER", " MariaDB "), ("DB_DEFAULT_SCHEMA", "audit"), ("DBMCP_LOG_LEVEL", "")]

/-- What `reportingEntries` and `auditEnvironment` give: the engine and the schema come from the
    environment, the severity and two numbers from the file, and the rest is the default. -/
def auditSettings : Settings where
  engine := .mysql
  defaultSchema := "audit"
  logLevel := .debug
  maxPageSize := 150
  maxQueryRows := 250

/-- The entries of `reportingEntries` give the same in either order. The schema of
    `misnamedEntries` and the driver of `undrivenEntries` end every load, though the environment
    gives others. -/
theorem settings_follow_precedence_reporting :
    (Settings.load (fun _ => some (.mapping reportingEntries)) "config.yaml"
        auditEnvironment).2 = .ok auditSettings ∧
      (∀ k, auditSettings.Follows reportingEntries auditEnvironment k) ∧ auditSettings.Valid ∧
      (Settings.load (fun _ => some (.mapping reportingEntries.reverse)) "config.yaml"
        auditEnvironment).2 = .ok auditSettings ∧
      (∃ g, ∀ env, (Settings.load (fun _ => some (.mapping misnamedEntries)) "config.yaml"
        env).2 = .error g) ∧
      ∃ g, ∀ env, (Settings.load (fun _ => some (.mapping undrivenEntries)) "config.yaml"
        env).2 = .error g := by
  have hkeys : DistinctKeys reportingEntries := by
    unfold DistinctKeys reportingEntries
    decide
  have hload : (Settings.load (fun _ => some (.mapping reportingEntries)) "config.yaml"
      auditEnvironment).2 = .ok auditSettings := by
    refine (Settings.load_eq_ok_iff rfl hkeys).mpr ⟨?_, _, _,
      (Overrides.readInto_eq_ok_iff hkeys).mp rfl,
      (Overrides.readInto_eq_ok_iff (Settings.distinctKeys_environmentEntries _)).mp rfl, rfl⟩
    unfold Settings.Describable
    decide +kernel
  obtain ⟨hfollows, hvalid, hsame⟩ :=
    (settings_follow_precedence rfl hkeys auditEnvironment).1 auditSettings hload
  have hmisnamed : DistinctKeys misnamedEntries := by
    unfold DistinctKeys misnamedEntries
    decide
  have hschema : Setting.convert .defaultSchema (.text "my schema") =
      .error (.error (.configuration (.defaultSchema (.text "my schema")))) := rfl
  have hundriven : DistinctKeys undrivenEntries := by
    unfold DistinctKeys undrivenEntries
    decide
  have hdriver : Setting.convert .engine (.text "mongodb") =
      .error (.error (.configuration (.unknownDriver (.text "mongodb")))) := rfl
  refine ⟨hload, hfollows, hvalid, ?_, ?_, ?_⟩
  · refine (hsame _ "config.yaml" _ rfl ?_ ?_).mpr ?_
    · unfold DistinctKeys reportingEntries
      decide
    · exact (List.reverse_perm _).symm.filter _
    · decide
  · refine (settings_follow_precedence rfl hmisnamed auditEnvironment).2 .defaultSchema _
      (List.mem_cons_of_mem _ List.mem_cons_self) (by simp) fun schema hstands => ?_
    exact absurd (hschema.symm.trans (Setting.convert_eq_ok_iff.mpr hstands)) (by simp)
  · refine (settings_follow_precedence rfl hundriven auditEnvironment).2 .engine _
      List.mem_cons_self (by simp) fun e hstands => ?_
    exact absurd (hdriver.symm.trans (Setting.convert_eq_ok_iff.mpr hstands)) (by simp)

end SqlCatalog
