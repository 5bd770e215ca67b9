import SqlCatalog.Identifier
import SqlCatalog.Settings.Basic
import SqlCatalog.Value.Reading
import SqlCatalog.Value.Writing

/-!
# Overrides

Settings that a file or the environment gives, read from a mapping of names to
values. Each value is checked and converted on its own. Names that are no
settings are noted and passed over, null counts as not given, and the first value
that cannot be used ends the reading. A refusal quotes the value, so a value without a
text is a misuse where it would be quoted or taken as a text.

## Main definitions

* `Overrides`: The settings that are given.
* `Overrides.set`: One more of them.
* `Overrides.read`: All that a mapping gives.
* `Settings.apply`: Settings with overrides.
-/

namespace SqlCatalog

/-- The settings that a file or the environment gives. -/
structure Overrides where
  engine : Option Engine := none
  connectionString : Option String := none
  defaultSchema : Option String := none
  logLevel : Option LogLevel := none
  logFile : Option String := none
  maxPageSize : Option Int := none
  maxRowsPageSize : Option Int := none
  maxQueryRows : Option Int := none

namespace Overrides

/-- The refusal of a value, which quotes it. -/
def refuseQuoting {α : Type} (v : Value) (fault : ConfigurationFault) : Outcome α := do
  let _ ← v.written
  refuse (.configuration fault)

/-- The engine that a value designates. -/
def readEngine (v : Value) : Outcome Engine := do
  let _ ← v.written
  Engine.parse v

/-- The severity that a value names, without regard to case and outer blanks. -/
def readLevel (v : Value) : Outcome LogLevel := do
  let text ← v.written
  match LogLevel.ofName? (Text.uppercase (Text.trimmed text)) with
  | some level => return level
  | none => refuse (.configuration (.logLevel v))

/-- The schema that a value names. An absent value names the empty one. -/
def readSchema (v : Value) : Outcome String :=
  if !v.isTruthy then .ok ""
  else do
    let text ← v.written
    if Identifier.isName text.toList then return text
    else refuse (.configuration (.defaultSchema v))

/-- The number above zero that a value stands for. -/
def readPositive (setting : Setting) (v : Value) : Outcome Int :=
  match v.integer with
  | .ok n => if n < 1 then refuseQuoting (.int n) (.notPositive setting.name n) else .ok n
  | .error (.misuse .wrongKind) | .error (.misuse .unusable) =>
    refuseQuoting v (.notInteger setting.name v)
  | .error f => .error f

/-- The overrides with the value of a setting checked and converted. -/
def set (o : Overrides) (setting : Setting) (v : Value) : Outcome Overrides :=
  match setting with
  | .engine => (readEngine v).map fun e => { o with engine := some e }
  | .connectionString => v.written.map fun s => { o with connectionString := some s }
  | .defaultSchema => (readSchema v).map fun s => { o with defaultSchema := some s }
  | .logLevel => (readLevel v).map fun l => { o with logLevel := some l }
  | .logFile => v.written.map fun s => { o with logFile := some s }
  | .maxPageSize => (readPositive setting v).map fun n => { o with maxPageSize := some n }
  | .maxRowsPageSize => (readPositive setting v).map fun n => { o with maxRowsPageSize := some n }
  | .maxQueryRows => (readPositive setting v).map fun n => { o with maxQueryRows := some n }

/-- The note on a name that is no setting. -/
def unknownNote (name : String) : LogRecord :=
  ⟨.settings, .warning, "Ignoring unknown setting: " ++ name⟩

/-- The overrides with all that a mapping gives, and what was noted on the way. -/
def readInto (o : Overrides) : List (Value × Value) → List LogRecord × Outcome Overrides
  | [] => ([], .ok o)
  | (key, v) :: rest =>
    match key.text?.bind Setting.ofName?, v with
    | none, _ =>
      match key.written with
      | .error f => ([], .error f)
      | .ok name =>
        let (logs, outcome) := readInto o rest
        (unknownNote name :: logs, outcome)
    | some _, .null => readInto o rest
    | some setting, v =>
      match o.set setting v with
      | .error f => ([], .error f)
      | .ok o => readInto o rest

/-- All that a mapping gives. -/
def read (entries : List (Value × Value)) : List LogRecord × Outcome Overrides :=
  readInto {} entries

/-- The settings that are given, under their names. -/
def record (o : Overrides) : List (String × Value) :=
  let text (s : String) : Value := .text s
  let field (k : Setting) (v : Option Value) : Option (String × Value) := v.map (k.name, ·)
  [field .engine (o.engine.map fun e => text e.driverName),
    field .connectionString (o.connectionString.map text),
    field .defaultSchema (o.defaultSchema.map text),
    field .logLevel (o.logLevel.map fun l => text l.name),
    field .logFile (o.logFile.map text), field .maxPageSize (o.maxPageSize.map .int),
    field .maxRowsPageSize (o.maxRowsPageSize.map .int),
    field .maxQueryRows (o.maxQueryRows.map .int)].filterMap id

end Overrides

/-- Settings with overrides: what is given replaces what was there. -/
def Settings.apply (s : Settings) (o : Overrides) : Settings where
  engine := o.engine.getD s.engine
  connectionString := o.connectionString.getD s.connectionString
  defaultSchema := o.defaultSchema.getD s.defaultSchema
  logLevel := o.logLevel.getD s.logLevel
  logFile := o.logFile <|> s.logFile
  maxPageSize := o.maxPageSize.getD s.maxPageSize
  maxRowsPageSize := o.maxRowsPageSize.getD s.maxRowsPageSize
  maxQueryRows := o.maxQueryRows.getD s.maxQueryRows

end SqlCatalog
