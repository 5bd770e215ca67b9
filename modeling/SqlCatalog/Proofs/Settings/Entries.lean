import SqlCatalog.Proofs.Basic
import SqlCatalog.Settings.Load

/-!
# Entries of Settings

What one entry does when a mapping of settings is read. There are three kinds: the key names
no setting and is noted, or it names one and the value is null and not given, or it names one
and the value is set. The proofs about whole mappings are inductions with these three cases.

## Theorems

* `Setting.name_inj`: Settings are told apart by their names.
* `eq_name_of_setting`: A key that names a setting is the name of it.
* `Overrides.readInto_unknown`, `Overrides.readInto_null`, `Overrides.readInto_setting`: The
  three kinds of entries.
* `Settings.environmentEntries_eq`, `Settings.mem_environmentEntries`: What the environment
  gives.
-/

namespace SqlCatalog

/-- A text that names a setting is its name. -/
theorem Setting.name_of_ofName? {text : String} {setting : Setting}
    (h : Setting.ofName? text = some setting) : text = setting.name := by
  have hfound := List.find?_some h
  exact (beq_iff_eq.mp hfound).symm

/-- Settings are told apart by their names. -/
theorem Setting.name_inj {j k : Setting} (h : j.name = k.name) : j = k := by
  have hfound := congrArg ofName? h
  rwa [ofName?_name, ofName?_name, Option.some.injEq] at hfound

theorem eq_name_of_setting {key : Value} {setting : Setting}
    (h : key.text?.bind Setting.ofName? = some setting) : key = .text setting.name := by
  cases key with
  | text s => rw [Setting.name_of_ofName? h]
  | _ => exact absurd h (by simp [Value.text?])

namespace Overrides

/-- The name of no setting is noted and passed over. -/
theorem readInto_unknown (o : Overrides) {key : Value} (v : Value)
    (rest : List (Value × Value)) (h : key.text?.bind Setting.ofName? = none) :
    o.readInto ((key, v) :: rest) =
      match key.written with
      | .error f => ([], .error f)
      | .ok name => (unknownNote name :: (o.readInto rest).1, (o.readInto rest).2) := by
  rw [readInto.eq_def]
  cases hwritten : key.written <;> simp only [h, hwritten]

/-- A setting without a value is not given. -/
theorem readInto_null (o : Overrides) (setting : Setting) (rest : List (Value × Value)) :
    o.readInto ((.text setting.name, .null) :: rest) = o.readInto rest := by
  have hname : (Value.text setting.name).text?.bind Setting.ofName? = some setting :=
    Setting.ofName?_name setting
  rw [readInto.eq_def]
  simp only [hname]

/-- A setting with a value is set, and a value that cannot be used ends the reading. -/
theorem readInto_setting (o : Overrides) (setting : Setting) {v : Value}
    (rest : List (Value × Value)) (h : v ≠ .null) :
    o.readInto ((.text setting.name, v) :: rest) =
      match o.set setting v with
      | .error f => ([], .error f)
      | .ok o => o.readInto rest := by
  have hname : (Value.text setting.name).text?.bind Setting.ofName? = some setting :=
    Setting.ofName?_name setting
  rw [readInto.eq_def]
  cases hset : o.set setting v <;> simp only [hname, hset]

end Overrides

namespace Settings

theorem filter_nonempty {s : String} (h : s ≠ "") :
    (some s).filter (fun t => decide (t ≠ "")) = some s := by
  rw [Option.filter_some, if_pos (decide_eq_true h)]

/-- What the environment gives: the variables of settings that are not empty. -/
theorem environmentEntries_eq (env : Environment) :
    environmentEntries env = variableNames.filterMap fun (name, setting) =>
      ((env.lookup name).filter (· ≠ "")).map fun s => (.text setting.name, .text s) := by
  refine List.filterMap_congr fun ⟨name, setting⟩ _ => ?_
  dsimp only
  rcases env.lookup name with _ | s
  · rfl
  · by_cases hempty : s = ""
    · rw [hempty]
      rfl
    · rw [filter_nonempty hempty]
      split
      · rename_i h
        exact absurd h (by simp)
      · rename_i h
        exact absurd (Option.some.inj h) hempty
      · rename_i t _ h
        rw [Option.some.inj h]
        rfl

/-- What the environment gives are texts for five of the settings. -/
theorem mem_environmentEntries {env : Environment} {entry : Value × Value}
    (h : entry ∈ environmentEntries env) :
    ∃ setting ∈ variableNames.map (·.2), ∃ s, entry = (.text setting.name, .text s) := by
  rw [environmentEntries, List.mem_filterMap] at h
  obtain ⟨⟨name, setting⟩, hmem, hentry⟩ := h
  refine ⟨setting, List.mem_map_of_mem (f := (·.2)) hmem, ?_⟩
  dsimp only at hentry
  split at hentry
  · exact absurd hentry (by simp)
  · exact absurd hentry (by simp)
  · rename_i s _ _
    exact ⟨s, (Option.some.inj hentry).symm⟩

end Settings

end SqlCatalog
