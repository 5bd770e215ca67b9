import Mathlib.Data.List.Forall2
import SqlCatalog.Proofs.Settings.Entries

/-!
# The Connection String Is Not Told

Nothing that is said while settings are loaded depends on the connection string: neither the
records for the log, whatever their level, nor an error, nor the description of the settings
and their printed form. All that may be learnt is whether there is one.

The argument is that masking commutes with loading. To load settings and to mask the
connection string at the end is the same as to mask it in the file and in the environment and
to load what is left of them (`Settings.load_masked`), with the same records on the way. Two
connection strings that are not empty have one mask, so a loading cannot tell them apart.

## Main definitions

* `Value.IsSecret`: A value that is a connection string and not an empty one.
* `SameButSecret`, `Document.SameButSecret`, `SameButSecretVariable`: Entries, files and
  variables that differ in nothing but a connection string.
* `Settings.masked`, `Overrides.masked`, `Document.masked`: What is left when the connection
  string is masked.

## Theorems

* `Overrides.readInto_masked`: Masking commutes with reading entries.
* `Settings.load_masked`: Masking commutes with loading.
* `secret_is_not_told`: Loading tells no two connection strings apart.
-/

namespace SqlCatalog

/-! ### Masking -/

/-- A mask hides nothing when it is put over a mask. -/
theorem Settings.mask_mask (secret : String) : mask (mask secret) = mask secret := by
  unfold mask
  split <;> rfl

/-- Strings that are not empty have one mask. -/
theorem Settings.mask_eq {s t : String} (hs : s ≠ "") (ht : t ≠ "") : mask s = mask t := by
  rw [mask, mask, if_neg hs, if_neg ht]

/-- The settings with the connection string masked. -/
def Settings.masked (s : Settings) : Settings :=
  { s with connectionString := mask s.connectionString }

/-- The settings that are given, with the connection string masked. -/
def Overrides.masked (o : Overrides) : Overrides :=
  { o with connectionString := o.connectionString.map Settings.mask }

/-- The value of a connection string, masked where it has a text. -/
def Value.masked : Value → Value
  | .null => .null
  | v =>
    match v.written with
    | .ok s => .text (Settings.mask s)
    | .error _ => v

/-- An entry with its value masked when it is the connection string. -/
def maskedEntry (entry : Value × Value) : Value × Value :=
  if entry.1.text? = some Setting.connectionString.name then (entry.1, entry.2.masked) else entry

/-- A file with the connection string masked. -/
def Document.masked : Document → Document
  | .mapping entries => .mapping (entries.map maskedEntry)
  | d => d

/-- A variable with its value masked when it is the connection string. -/
def maskedVariable (given : String × String) : String × String :=
  if given.1 = "DB_CONNECTION_STRING" then (given.1, Settings.mask given.2) else given

namespace Settings

/-- The description shows the masked settings, and masking them before changes nothing. -/
theorem describe_masked (s : Settings) : s.masked.describe = s.describe := by
  simp only [describe, masked, mask_mask]

theorem printed_masked (s : Settings) : s.masked.printed = s.printed := rfl

theorem apply_masked (s : Settings) (o : Overrides) :
    s.masked.apply o.masked = (s.apply o).masked := by
  simp only [apply, masked, Overrides.masked, Option.getD_map]

end Settings

/-! ### Entries -/

theorem Value.masked_of_ne_null {v : Value} (h : v ≠ .null) :
    v.masked = match v.written with
      | .ok s => .text (Settings.mask s)
      | .error _ => v := by
  rw [masked]
  exact h

/-- What is given stays given. -/
theorem Value.masked_ne_null {v : Value} (h : v ≠ .null) : v.masked ≠ .null := by
  rw [masked_of_ne_null h]
  split
  · simp
  · exact h

theorem maskedEntry_unknown {key : Value} (v : Value)
    (h : key.text?.bind Setting.ofName? = none) : maskedEntry (key, v) = (key, v) := by
  rw [maskedEntry, if_neg]
  intro hname
  rw [hname] at h
  exact absurd h (by decide)

theorem maskedEntry_setting (setting : Setting) (v : Value) :
    maskedEntry (.text setting.name, v) =
      (.text setting.name, if setting = .connectionString then v.masked else v) := by
  cases setting <;> rfl

namespace Overrides

/-- Setting a value and masking is masking and setting the masked value. -/
theorem set_masked (o : Overrides) (setting : Setting) {v : Value} (h : v ≠ .null) :
    o.masked.set setting (if setting = .connectionString then v.masked else v) =
      (o.set setting v).map masked := by
  have hmap {α : Type} (outcome : Outcome α) (f g : α → Overrides)
      (hfg : ∀ a, f a = (g a).masked) : outcome.map f = (outcome.map g).map masked := by
    cases outcome with
    | error failure => rfl
    | ok a => exact congrArg Except.ok (hfg a)
  cases setting with
  | connectionString =>
      rw [if_pos rfl, Value.masked_of_ne_null h, set, set]
      rcases hwritten : v.written with f | s
      · dsimp only
        rw [hwritten]
        rfl
      · rfl
  | engine | defaultSchema | logLevel | logFile | maxPageSize | maxRowsPageSize
  | maxQueryRows =>
      -- What sets another field leaves the connection string, masked or not.
      rw [if_neg (by decide), set, set]
      exact hmap _ _ _ fun _ => rfl

/-- Reading entries and masking is masking and reading the masked entries, with the same
    notes, by induction on the entries. -/
theorem readInto_masked (o : Overrides) (entries : List (Value × Value)) :
    o.masked.readInto (entries.map maskedEntry) =
      ((o.readInto entries).1, (o.readInto entries).2.map masked) := by
  induction entries generalizing o with
  | nil => rfl
  | cons entry rest ih =>
      obtain ⟨key, v⟩ := entry
      rw [List.map_cons]
      rcases hsetting : key.text?.bind Setting.ofName? with _ | setting
      · rw [maskedEntry_unknown v hsetting, readInto_unknown _ v _ hsetting,
          readInto_unknown _ v _ hsetting, ih o]
        cases key.written <;> rfl
      · obtain rfl := eq_name_of_setting hsetting
        rw [maskedEntry_setting]
        by_cases hnull : v = .null
        · have hmasked : (if setting = .connectionString then v.masked else v) = .null := by
            rw [hnull]
            split <;> rfl
          rw [hmasked, hnull, readInto_null, readInto_null, ih o]
        · have hmasked : (if setting = .connectionString then v.masked else v) ≠ .null := by
            split
            · exact Value.masked_ne_null hnull
            · exact hnull
          rw [readInto_setting _ _ _ hmasked, readInto_setting _ _ _ hnull, set_masked _ _ hnull]
          cases o.set setting v with
          | error f => rfl
          | ok next => exact ih next

end Overrides

namespace Settings

/-- A variable is found with its mask when it is the connection string. -/
theorem lookup_masked (env : Environment) (name : String) :
    (env.map maskedVariable).lookup name =
      (env.lookup name).map fun s => if name = "DB_CONNECTION_STRING" then mask s else s := by
  induction env with
  | nil => rfl
  | cons given rest ih =>
      obtain ⟨other, s⟩ := given
      have hother : maskedVariable (other, s) =
          (other, if other = "DB_CONNECTION_STRING" then mask s else s) := by
        rw [maskedVariable]
        split <;> rfl
      rw [List.map_cons, hother, List.lookup_cons, List.lookup_cons, ih]
      by_cases hname : name = other
      · rw [hname, beq_self_eq_true]
        rfl
      · rw [beq_false_of_ne hname]

theorem mask_eq_empty {s : String} : mask s = "" ↔ s = "" := by
  unfold mask
  split
  · rename_i h
    simp [h]
  · rename_i h
    simp [h]

/-- What a masked environment gives are the masked entries of the environment. -/
theorem environmentEntries_masked (env : Environment) :
    environmentEntries (env.map maskedVariable) = (environmentEntries env).map maskedEntry := by
  -- The one variable that is masked is the one that gives the connection string.
  have hsecret : ∀ entry ∈ variableNames,
      (entry.1 = "DB_CONNECTION_STRING" ↔ entry.2 = .connectionString) := by decide
  rw [environmentEntries_eq, environmentEntries_eq, List.map_filterMap]
  refine List.filterMap_congr fun ⟨name, setting⟩ hmem => ?_
  dsimp only
  rw [lookup_masked]
  rcases env.lookup name with _ | s
  · rfl
  · rw [Option.map_some]
    by_cases hempty : s = ""
    · rw [hempty]
      split <;> rfl
    · rw [filter_nonempty hempty, Option.map_some, Option.map_some, maskedEntry_setting]
      by_cases hname : name = "DB_CONNECTION_STRING"
      · rw [if_pos hname, if_pos ((hsecret _ hmem).mp hname),
          filter_nonempty (mt mask_eq_empty.mp hempty)]
        rfl
      · rw [if_neg hname, if_neg (mt (hsecret _ hmem).mpr hname),
          filter_nonempty hempty]
        rfl

/-! ### Loading -/

theorem fileEntries_masked (read : String → Option Document) (path : String) :
    fileEntries (fun p => (read p).map Document.masked) path =
      (fileEntries read path).map (List.map maskedEntry) := by
  unfold fileEntries
  dsimp only
  rcases read (Text.tidyPath path) with _ | _ | _ | entries <;> rfl

theorem applyFile_masked (s : Settings) (read : String → Option Document) (path : String) :
    s.masked.applyFile (fun p => (read p).map Document.masked) path =
      ((s.applyFile read path).1, (s.applyFile read path).2.map masked) := by
  unfold applyFile
  split
  · rfl
  · rw [fileEntries_masked]
    rcases fileEntries read path with f | entries
    · rfl
    · have hread := Overrides.readInto_masked {} entries
      dsimp only [Except.map]
      unfold Overrides.read
      rw [show Overrides.readInto {} (entries.map maskedEntry) = _ from hread]
      rcases Overrides.readInto {} entries with ⟨logs, f | o⟩
      · rfl
      · exact congrArg (Prod.mk _) (congrArg Except.ok (apply_masked s o))

theorem applyEnvironment_masked (s : Settings) (env : Environment) :
    s.masked.applyEnvironment (env.map maskedVariable) =
      ((s.applyEnvironment env).1, (s.applyEnvironment env).2.map masked) := by
  have hread := Overrides.readInto_masked {} (environmentEntries env)
  unfold applyEnvironment Overrides.read
  rw [environmentEntries_masked,
    show Overrides.readInto {} ((environmentEntries env).map maskedEntry) = _ from hread]
  rcases Overrides.readInto {} (environmentEntries env) with ⟨logs, f | o⟩
  · rfl
  · -- What is described is masked on both sides.
    dsimp only [Except.map]
    rw [apply_masked, describe_masked]
    split <;> rfl

/-- Loading settings and masking the connection string is masking it everywhere and loading
    what is left, with the same records on the way. -/
theorem load_masked (read : String → Option Document) (path : String) (env : Environment) :
    load (fun p => (read p).map Document.masked) path (env.map maskedVariable) =
      ((load read path env).1, (load read path env).2.map masked) := by
  -- The defaults have no connection string, so masked they are what they were.
  have hfile := applyFile_masked {} read path
  unfold load
  rw [show applyFile {} (fun p => (read p).map Document.masked) path = _ from hfile]
  rcases applyFile {} read path with ⟨logs, f | s⟩
  · rfl
  · dsimp only [Except.map]
    rw [applyEnvironment_masked]
    rfl

end Settings

/-! ### Two connection strings -/

/-- The value is a connection string, and not an empty one. -/
def Value.IsSecret (v : Value) : Prop :=
  v ≠ .null ∧ ∃ s, v.written = .ok s ∧ s ≠ ""

/-- Two entries that are the same, but for the connection string that they may give. -/
inductive SameButSecret : Value × Value → Value × Value → Prop
  | same (entry : Value × Value) : SameButSecret entry entry
  | secret {v w : Value} (hv : v.IsSecret) (hw : w.IsSecret) :
      SameButSecret (.text "connection_string", v) (.text "connection_string", w)

/-- Two files that hold the same, but for the connection string. -/
inductive Document.SameButSecret : Document → Document → Prop
  | same (d : Document) : SameButSecret d d
  | mapping {entries others : List (Value × Value)}
      (h : List.Forall₂ SqlCatalog.SameButSecret entries others) :
      SameButSecret (.mapping entries) (.mapping others)

/-- Two variables that are the same, but for the connection string that they may give. -/
inductive SameButSecretVariable : String × String → String × String → Prop
  | same (given : String × String) : SameButSecretVariable given given
  | secret {s t : String} (hs : s ≠ "") (ht : t ≠ "") :
      SameButSecretVariable ("DB_CONNECTION_STRING", s) ("DB_CONNECTION_STRING", t)

theorem Value.IsSecret.masked_eq {v w : Value} (hv : v.IsSecret) (hw : w.IsSecret) :
    v.masked = w.masked := by
  obtain ⟨hv, s, hs, hsecret⟩ := hv
  obtain ⟨hw, t, ht, hother⟩ := hw
  rw [masked_of_ne_null hv, masked_of_ne_null hw, hs, ht]
  exact congrArg Value.text (Settings.mask_eq hsecret hother)

theorem SameButSecret.masked_eq {entry other : Value × Value} (h : SameButSecret entry other) :
    maskedEntry entry = maskedEntry other := by
  cases h with
  | same => rfl
  | @secret v w hv hw =>
      have hmasked (v : Value) :
          maskedEntry (.text "connection_string", v) = (.text "connection_string", v.masked) := rfl
      rw [hmasked, hmasked, hv.masked_eq hw]

theorem SameButSecretVariable.masked_eq {given other : String × String}
    (h : SameButSecretVariable given other) : maskedVariable given = maskedVariable other := by
  cases h with
  | same => rfl
  | @secret s t hs ht =>
      have hmasked (s : String) : maskedVariable ("DB_CONNECTION_STRING", s) =
          ("DB_CONNECTION_STRING", Settings.mask s) := rfl
      rw [hmasked, hmasked, Settings.mask_eq hs ht]

/-- What is the same item by item under a function is so as a whole. -/
theorem map_eq_of_forall₂ {α β : Type} {R : α → α → Prop} {f : α → β} {xs ys : List α}
    (h : List.Forall₂ R xs ys) (hf : ∀ x y, R x y → f x = f y) : xs.map f = ys.map f := by
  induction h with
  | nil => rfl
  | cons hfirst _ ih => rw [List.map_cons, List.map_cons, hf _ _ hfirst, ih]

theorem Document.SameButSecret.masked_eq {d e : Document} (h : d.SameButSecret e) :
    d.masked = e.masked := by
  cases h with
  | same => rfl
  | mapping h =>
      exact congrArg Document.mapping (map_eq_of_forall₂ h fun _ _ h => h.masked_eq)

/-- Loading tells no two connection strings apart. With one in place of the other, in the file
    or in the environment, the records for the log are the same, and either both loadings fail
    with one failure, or the settings have one description and one printed form and agree in
    everything but the connection string. -/
theorem secret_is_not_told {read other : String → Option Document} {env otherEnv : Environment}
    (path : String) (hfiles : ∀ p, Option.Rel Document.SameButSecret (read p) (other p))
    (henv : List.Forall₂ SameButSecretVariable env otherEnv) :
    (Settings.load read path env).1 = (Settings.load other path otherEnv).1 ∧
      ((∃ f, (Settings.load read path env).2 = .error f ∧
          (Settings.load other path otherEnv).2 = .error f) ∨
        ∃ s t, (Settings.load read path env).2 = .ok s ∧
          (Settings.load other path otherEnv).2 = .ok t ∧
          s.describe = t.describe ∧ s.printed = t.printed ∧
          { s with connectionString := "" } = { t with connectionString := "" }) := by
  have hmaskedFiles : (fun p => (read p).map Document.masked) =
      fun p => (other p).map Document.masked := by
    funext p
    have hp := hfiles p
    rcases hr : read p with _ | d <;> rcases ho : other p with _ | e <;> rw [hr, ho] at hp
    · cases hp
    · cases hp
    · cases hp with
      | some h => exact congrArg some h.masked_eq
  have hmaskedEnv : env.map maskedVariable = otherEnv.map maskedVariable :=
    map_eq_of_forall₂ henv fun _ _ h => h.masked_eq
  have hload := Settings.load_masked read path env
  rw [hmaskedFiles, hmaskedEnv, Settings.load_masked other path otherEnv] at hload
  obtain ⟨hlogs, houtcome⟩ := Prod.mk.inj hload
  refine ⟨hlogs.symm, ?_⟩
  rcases hs : (Settings.load read path env).2 with f | s <;>
    rcases ht : (Settings.load other path otherEnv).2 with g | t <;> rw [hs, ht] at houtcome
  · left
    exact ⟨f, rfl, houtcome⟩
  · exact absurd houtcome (by simp [Except.map])
  · exact absurd houtcome (by simp [Except.map])
  · right
    have hmasked : t.masked = s.masked := Except.ok.inj houtcome
    refine ⟨s, t, rfl, rfl, ?_, ?_, ?_⟩
    · rw [← s.describe_masked, ← hmasked, t.describe_masked]
    · rw [← s.printed_masked, ← hmasked, t.printed_masked]
    · exact (congrArg (fun s : Settings => { s with connectionString := "" }) hmasked).symm

/-- The file of someone with an account: a connection string between other entries. -/
def accountFile (account : String) : String → Option Document :=
  fun _ => some (.mapping [(.text "theme", .text "dark"),
    (.text "connection_string", .text account), (.text "max_page_size", .int 20)])

/-- Two accounts are loaded with the same records and described alike, and stay two. -/
theorem accounts_are_not_told :
    (∀ p, Option.Rel Document.SameButSecret (accountFile "ann:pw@db" p) (accountFile "bob@db" p)) ∧
      List.Forall₂ SameButSecretVariable [("DBMCP_LOG_FILE", "log")] [("DBMCP_LOG_FILE", "log")] ∧
      (Settings.load (accountFile "ann:pw@db") "config.yaml" [("DBMCP_LOG_FILE", "log")]).1 =
        (Settings.load (accountFile "bob@db") "config.yaml" [("DBMCP_LOG_FILE", "log")]).1 ∧
      ∃ s t, (Settings.load (accountFile "ann:pw@db") "config.yaml"
          [("DBMCP_LOG_FILE", "log")]).2 = .ok s ∧
        (Settings.load (accountFile "bob@db") "config.yaml" [("DBMCP_LOG_FILE", "log")]).2 = .ok t ∧
        s.describe = t.describe ∧ s.printed = t.printed ∧
        s.connectionString ≠ t.connectionString := by
  have hsecret (account : String) (h : account ≠ "") : (Value.text account).IsSecret :=
    ⟨by simp, account, rfl, h⟩
  have hfiles (p : String) :
      Option.Rel Document.SameButSecret (accountFile "ann:pw@db" p) (accountFile "bob@db" p) :=
    .some (.mapping (.cons (.same _) (.cons (.secret (hsecret _ (by decide))
      (hsecret _ (by decide))) (.cons (.same _) .nil))))
  have henv : List.Forall₂ SameButSecretVariable [("DBMCP_LOG_FILE", "log")]
      [("DBMCP_LOG_FILE", "log")] := .cons (.same _) .nil
  have hann : ((Settings.load (accountFile "ann:pw@db") "config.yaml"
      [("DBMCP_LOG_FILE", "log")]).2.toOption.map (·.connectionString)) = some "ann:pw@db" := by
    decide +kernel
  have hbob : ((Settings.load (accountFile "bob@db") "config.yaml"
      [("DBMCP_LOG_FILE", "log")]).2.toOption.map (·.connectionString)) = some "bob@db" := by
    decide +kernel
  obtain ⟨hlogs, ⟨f, hf, -⟩ | ⟨s, t, hs, ht, hdescribe, hprinted, -⟩⟩ :=
    secret_is_not_told "config.yaml" hfiles henv
  · rw [hf] at hann
    exact absurd hann (by simp [Except.toOption])
  · refine ⟨hfiles, henv, hlogs, s, t, hs, ht, hdescribe, hprinted, ?_⟩
    rw [hs] at hann
    rw [ht] at hbob
    rw [show s.connectionString = _ from Option.some.inj hann,
      show t.connectionString = _ from Option.some.inj hbob]
    decide

end SqlCatalog
