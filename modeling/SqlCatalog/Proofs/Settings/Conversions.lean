import SqlCatalog.Proofs.Settings.Passes
import SqlCatalog.Proofs.Settings.Refusals
import SqlCatalog.Proofs.Value.Integers

/-!
# What Values of Settings Stand For

A file and the environment give values, and a setting is of a type of its own. Which engine,
severity, schema, text or number a value stands for is a table, a grammar or a bound, and is said
here in these terms. Whoever loads settings may come to the answer in whatever way.

A value that stands for nothing is not always refused by the same check. The text of a value comes
first where one is needed, a name is looked up without regard to case and outer blanks, and a
number is read before it is compared with its bound. None of this shows in the relation: a value
stands for something or it does not, and `Setting.convert_eq_ok_iff` says that a value is accepted
exactly in the first case, as what it stands for.

## Main definitions

* `engineNames`, `severityNames`: The names of engines and of severities.
* `IsSchemaName`: The grammar of the names of schemas.
* `Setting.StandsFor`: What a value stands for when it is given for a setting.
* `Setting.default`: What a setting is when nothing is given for it.

## Theorems

* `Engine.ofAlias?_eq_some_iff`, `LogLevel.ofName?_eq_some_iff`: Names are looked up in the tables.
* `isName_iff`: The check of a schema is its grammar.
* `Setting.convert_eq_ok_iff`: A value is converted to what it stands for.
* `Settings.content_default`: Settings are what they are by default.
-/

namespace SqlCatalog

/-! ### Names -/

/-- The names of the engines, in lower case. -/
def engineNames : List (String × Engine) :=
  [("sqlserver", .sqlServer), ("mssql", .sqlServer), ("postgres", .postgres),
    ("postgresql", .postgres), ("pg", .postgres), ("mysql", .mysql), ("mariadb", .mysql),
    ("godror", .oracle), ("oracle", .oracle), ("sqlite3", .sqlite), ("sqlite", .sqlite)]

/-- The names of the severities, in upper case. -/
def severityNames : List (String × LogLevel) :=
  [("DEBUG", .debug), ("INFO", .info), ("WARNING", .warning), ("ERROR", .error),
    ("CRITICAL", .critical)]

/-- The name of a schema: between 1 and 127 ASCII letters, digits and four marks. -/
def IsSchemaName (s : String) : Prop :=
  1 ≤ s.length ∧ s.length ≤ 127 ∧
    ∀ c ∈ s.toList, c.isAlphanum = true ∨ c ∈ ['_', '#', '@', '$']

theorem Engine.ofAlias?_eq_some_iff {name : String} {e : Engine} :
    ofAlias? name = some e ↔ (name, e) ∈ engineNames := by
  constructor
  · intro h
    rw [ofAlias?] at h
    have hfound := List.find?_some h
    cases e <;> simpa [aliases, engineNames] using hfound
  · have hall : ∀ entry ∈ engineNames, ofAlias? entry.1 = some entry.2 := by decide
    exact hall (name, e)

theorem LogLevel.ofName?_eq_some_iff {name : String} {l : LogLevel} :
    ofName? name = some l ↔ (name, l) ∈ severityNames := by
  constructor
  · intro h
    rw [ofName?] at h
    have hfound := List.find?_some h
    rw [← beq_iff_eq.mp hfound]
    cases l <;> decide
  · have hall : ∀ entry ∈ severityNames, ofName? entry.1 = some entry.2 := by decide
    exact hall (name, l)

theorem isName_iff {s : String} : Identifier.isName s.toList = true ↔ IsSchemaName s := by
  have hlength : s.toList.isEmpty = false ↔ 1 ≤ s.length := by
    rw [← String.length_toList, List.isEmpty_eq_false_iff, ← List.length_pos_iff]
    rfl
  simp only [Identifier.isName, Identifier.isNameChar, Identifier.maxLength, IsSchemaName,
    Bool.and_eq_true, Bool.not_eq_true', decide_eq_true_eq, List.all_eq_true, Bool.or_eq_true,
    beq_iff_eq, List.mem_cons, List.not_mem_nil, or_false, or_assoc, and_assoc, hlength,
    String.length_toList]

/-! ### Values -/

namespace Setting

/-- What a value stands for when it is given for a setting. Engines and severities are named, in
    whatever case and between whatever blanks. A value that stands for nothing gives no schema, and
    any other the schema that it names. The settings that are numbers are above zero. -/
def StandsFor : (k : Setting) → Value → k.Content → Prop
  | .engine, v, e => ¬v.IsMissing ∧ v.isWritable = true ∧
      ∃ word, Stripped Text.isBlank v.plain.toList word.toList ∧
        (Text.lowercase word, e) ∈ engineNames
  | .connectionString, v, s | .logFile, v, s => v.isWritable = true ∧ s = v.plain
  | .defaultSchema, v, s => (v.IsMissing ∧ s = "") ∨
      (¬v.IsMissing ∧ v.isWritable = true ∧ s = v.plain ∧ IsSchemaName s)
  | .logLevel, v, l => v.isWritable = true ∧
      ∃ word, Stripped Text.isBlank v.plain.toList word.toList ∧
        (Text.uppercase word, l) ∈ severityNames
  | .maxPageSize, v, n | .maxRowsPageSize, v, n | .maxQueryRows, v, n => v.Denotes n ∧ 1 ≤ n

/-- What a setting is when nothing is given for it. -/
def default : (k : Setting) → Option k.Content
  | .engine => some Engine.sqlServer
  | .connectionString | .defaultSchema => some ""
  | .logLevel => some LogLevel.info
  | .logFile => none
  | .maxPageSize => some (500 : Int)
  | .maxRowsPageSize => some (1000 : Int)
  | .maxQueryRows => some (10000 : Int)

end Setting

theorem Settings.content_default (k : Setting) : Settings.content {} k = k.default := by
  cases k <;> rfl

/-! ### Conversions -/

/-- A step that needs the text of a value gives a result if there is a text and it gives one. -/
theorem Value.written_bind_eq_ok_iff {α : Type} {v : Value} {f : String → Outcome α} {a : α} :
    v.written >>= f = .ok a ↔ v.isWritable = true ∧ f v.plain = .ok a := by
  unfold written
  by_cases hv : v.isWritable = true
  · rw [if_pos hv, and_iff_right hv]
    rfl
  · rw [if_neg hv]
    exact ⟨fun h => absurd h (by simp [bind, Except.bind]), fun h => absurd h.1 hv⟩

/-- What is found under a word between blanks. -/
theorem exists_stripped_iff {text : String} {P : String → Prop} :
    (∃ word, Stripped Text.isBlank text.toList word.toList ∧ P word) ↔ P (Text.trimmed text) := by
  simp only [← Text.trimmed_eq_iff, exists_eq_left']

theorem Engine.parse_eq_ok_iff {v : Value} {e : Engine} :
    Engine.parse v = .ok e ↔ v.isTruthy = true ∧
      (Text.lowercase (Text.trimmed v.plain), e) ∈ engineNames := by
  have hempty : ofAlias? (Text.lowercase (Text.trimmed "")) = none := by decide
  unfold parse
  rw [← ofAlias?_eq_some_iff]
  by_cases hv : v.isTruthy = true
  · rw [if_pos hv, and_iff_right hv]
    dsimp only
    split
    · rename_i d hd
      rw [hd, Except.ok.injEq, Option.some.injEq]
    · rename_i hnone
      rw [hnone]
      exact ⟨fun h => absurd h (by simp [refuse]), fun h => nomatch h⟩
  · -- An absent value is looked up under the empty name, which no engine has.
    rw [if_neg hv]
    simp only [hempty]
    exact ⟨fun h => absurd h (by simp [refuse]), fun h => absurd h.1 hv⟩

namespace Overrides

variable {v : Value}

theorem readEngine_eq_ok_iff {e : Engine} :
    readEngine v = .ok e ↔ Setting.StandsFor .engine v e := by
  rw [readEngine, Value.written_bind_eq_ok_iff, Engine.parse_eq_ok_iff, Setting.StandsFor,
    exists_stripped_iff, Value.isTruthy_iff_not_isMissing]
  exact and_left_comm

theorem readLevel_eq_ok_iff {l : LogLevel} :
    readLevel v = .ok l ↔ Setting.StandsFor .logLevel v l := by
  rw [readLevel, Value.written_bind_eq_ok_iff, Setting.StandsFor, exists_stripped_iff,
    ← LogLevel.ofName?_eq_some_iff]
  refine and_congr_right fun _ => ?_
  cases LogLevel.ofName? (Text.uppercase (Text.trimmed v.plain)) with
  | some d =>
      rw [Option.some.injEq]
      exact ⟨Except.ok.inj, congrArg _⟩
  | none => exact ⟨fun h => absurd h (by simp [refuse]), fun h => absurd h (by simp)⟩

theorem readSchema_eq_ok_iff {schema : String} :
    readSchema v = .ok schema ↔ Setting.StandsFor .defaultSchema v schema := by
  rw [readSchema, Setting.StandsFor, ← Value.isTruthy_iff_not_isMissing,
    ← Value.isTruthy_eq_false_iff]
  cases hv : v.isTruthy with
  | false =>
      rw [if_pos (by decide), or_iff_left (by simp), and_iff_right rfl]
      exact ⟨fun h => (Except.ok.inj h).symm, fun h => congrArg _ h.symm⟩
  | true =>
      rw [if_neg (by decide), Value.written_bind_eq_ok_iff, or_iff_right (by simp),
        and_iff_right rfl]
      refine and_congr_right fun _ => ?_
      split
      · rename_i hname
        constructor
        · intro h
          rw [← Except.ok.inj h]
          exact ⟨rfl, isName_iff.mp hname⟩
        · exact fun h => congrArg _ h.1.symm
      · rename_i hname
        refine ⟨fun h => absurd h (by simp [refuse]), fun h => absurd ?_ hname⟩
        rw [← h.1]
        exact isName_iff.mpr h.2

theorem readPositive_eq_ok_iff {setting : Setting} {n : Int} :
    readPositive setting v = .ok n ↔ v.Denotes n ∧ 1 ≤ n := by
  rw [← Value.integer_eq_ok_iff]
  have hread (hn : v.integer = .ok n) : readPositive setting v = .ok n ↔ 1 ≤ n := by
    rw [readPositive, hn]
    dsimp only
    split
    · rename_i hsmall
      refine ⟨fun h => ?_, fun h => absurd hsmall (by omega)⟩
      obtain ⟨_, -, h⟩ := ok_of_bind h
      exact absurd h (by simp [refuse])
    · exact iff_of_true rfl (by omega)
  exact ⟨fun h => ⟨integer_of_readPositive h, (hread (integer_of_readPositive h)).mp h⟩,
    fun h => (hread h.1).mpr h.2⟩

end Overrides

/-- A value is converted to what it stands for, and to nothing else. -/
theorem Setting.convert_eq_ok_iff {k : Setting} {v : Value} {c : k.Content} :
    k.convert v = .ok c ↔ k.StandsFor v c := by
  have hwritten {s : String} : v.written = .ok s ↔ v.isWritable = true ∧ s = v.plain := by
    rw [← bind_pure v.written, Value.written_bind_eq_ok_iff]
    exact and_congr_right fun _ =>
      ⟨fun h => (Except.ok.inj h).symm, fun h => congrArg _ h.symm⟩
  cases k with
  | engine => exact Overrides.readEngine_eq_ok_iff
  | connectionString | logFile => exact hwritten
  | defaultSchema => exact Overrides.readSchema_eq_ok_iff
  | logLevel =>
      rw [convert]
      exact Overrides.readLevel_eq_ok_iff
  | maxPageSize | maxRowsPageSize | maxQueryRows => exact Overrides.readPositive_eq_ok_iff

end SqlCatalog
