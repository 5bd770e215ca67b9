import SqlCatalog.CommandLine.Invocation
import SqlCatalog.Gate.Verdict
import SqlCatalog.Log.Handler
import SqlCatalog.Query.Named
import SqlCatalog.Query.Report
import SqlCatalog.Settings.Load
import SqlCatalog.Value.Json

/-!
# Running an Invocation

What an invocation leads to: an exit code, a text, and what is written to the
console and to the log file. Nothing is read or written here; what a run finds
is handed in, and what it leaves is handed out.

## Main definitions

* `Surroundings`: What a run finds.
* `BuildOptions.named`: The parameters of an operation as the options give them.
* `Command.perform`: What a command leads to.
* `Invocation.run`: What an invocation leads to.
-/

namespace SqlCatalog

namespace CommandLine

/-- What a run finds: files that hold settings, variables, the text at the standard
    input, what to put before each log line, and a formatter of statements. -/
structure Surroundings where
  readFile : String → Option Document
  environment : Environment
  input : String
  stamp : String
  formatter : Layout.Formatter

/-- What a run leaves: an exit code, the text at the standard output, and what was
    written to the console and to files. -/
structure RunResult where
  exitCode : Nat
  output : String := ""
  written : Written := {}

/-- The exit code of a run that did what it was asked. -/
def exitOk : Nat := 0

/-- The exit code of a run that ended with something else than an error of the library. -/
def exitUnexpected : Nat := 1

/-- Procedure arguments from pairs of a name and a value with an equals sign between. -/
def procedureArguments (pairs : List String) : Outcome (List (Value × Value)) :=
  pairs.foldlM (fun entries pair =>
    match splitValue pair.toList with
    | ("", _) | (_, none) => refuse (.input (.argumentPair pair))
    | (name, some v) => .ok (Value.insertEntry entries (.text name) (.text v))) []

namespace BuildOptions

/-- Whether the operation is about one object. Such an operation needs a schema; for a
    listing the schema is a filter that may be left out. -/
def isLookup (op : Operation) : Bool :=
  op.signature.accepts "name"
    || (op.signature.accepts "table" && !op.signature.accepts "name_filter")

/-- The parameter that a name without further qualification stands for. -/
def nameTarget? (op : Operation) : Option String :=
  ["name", "name_filter", "search_term"].find? op.signature.accepts

/-- The table, for which the name may stand where it means nothing else. -/
def tableOrName (o : BuildOptions) : String :=
  if o.table = "" then o.name else o.table

/-- The limits of the window, where they are given. -/
def window (o : BuildOptions) : Arguments :=
  (o.limit.map fun n => ("limit", Value.int n)).toList
    ++ (o.offset.map fun n => ("offset", Value.int n)).toList

/-- The parameters of an operation as the options give them. -/
def named (o : BuildOptions) (e : Engine) : Outcome Arguments := do
  let op := o.operation
  let schema ← if isLookup op then
      Identifier.resolveSchema (.text o.schema) e.rules.defaultSchema
    else pure o.schema
  if op = .selectRows then
    return [("table", .text o.tableOrName), ("schema", .text schema),
      ("columns", .list (o.columns.map .text)), ("order_by", .text o.orderBy),
      ("order_direction", .text o.orderDirection)] ++ o.window
  else
    let arguments ← procedureArguments o.arguments
    let table := if (nameTarget? op).isNone || nameTarget? op = some "search_term"
      then o.tableOrName else o.table
    let types : Arguments := if o.objectTypes.isEmpty then []
      else [("object_types", .list (o.objectTypes.map .text))]
    let target : Arguments := ((nameTarget? op).map fun t => (t, Value.text o.name)).toList
    let candidates := [("schema", Value.text schema), ("table", .text table),
        ("function_type", .text o.functionType), ("search_in_code", .bool o.searchInCode),
        ("include_disabled", .bool !o.excludeDisabled), ("arguments", .map arguments)]
      ++ o.window ++ types ++ target
    return candidates.filter fun a => op.signature.accepts a.1

/-- The query that the options ask for, in the writing of its engine. -/
def query (o : BuildOptions) (s : Settings) : Outcome (Engine × Query) := do
  let e ← if o.driver = "" then pure s.engine else Engine.parse (.text o.driver)
  let arguments ← o.named e
  match ← o.operation.build e arguments with
  | some q => return (e, q)
  | none => refuse (.unsupported o.operation.name)

end BuildOptions

/-- A text with its lines ended. -/
def printed (lines : List String) : String :=
  String.join (lines.map (· ++ "\n"))

/-- What a command leads to: what is to be noted, and an exit code with a text unless it
    fails. -/
def Command.perform (c : Command) (w : Surroundings) (s : Settings) :
    List LogRecord × Outcome (Nat × String) :=
  match c with
  | .validate sql =>
    let verdict := Gate.verdict (if sql = "-" then w.input else sql).toList
    let result := match verdict with
      | none => (exitOk, printed ["allowed"])
      | some r => (ErrorKind.rejected.exitCode, printed ["rejected [" ++ r.rule ++ "]: " ++ r.reason])
    (Gate.verdictLog verdict, .ok result)
  | .build o =>
    match o.query s with
    | .error f => ([], .error f)
    | .ok (e, q) =>
      ([q.record w.formatter e], .ok (exitOk, printed [
        Layout.apply w.formatter o.style (q.sql e), "-- args: " ++ (Value.list q.args).json]))
  | .operations => ([], .ok (exitOk, printed (Operation.all.map Operation.name)))

/-- What is said about a failure, and the exit code that it leads to. -/
def reportFailure (f : Failure) (written : Written) : RunResult :=
  match f with
  | .error e => ⟨e.exitCode, "", written.sayLine ("Error: " ++ e.message)⟩
  | .raised message => ⟨exitUnexpected, "", written.sayLine ("Failure: " ++ message)⟩
  | .misuse _ => ⟨exitUnexpected, "", written.sayLine "Failure: unusable value"⟩

/-- What is printed for those who ask for help. -/
def helpText : String :=
  printed ["usage: dbmcp [-h] [--version] [--config FILE] [--log-level LEVEL] [--log-file FILE]",
    "             [--no-color] \x7bvalidate,build,operations\x7d ...", "",
    "Engine-agnostic catalog queries and read-only SQL validation", "",
    "commands:",
    "  validate SQL       check a query against the read-only gate, - reads it from the input",
    "  build OPERATION    print the SQL and the arguments of a catalog operation",
    "  operations         list the names of the operations"]

/-- The version of the program. -/
def versionText : String := printed ["dbmcp 0.1.0"]

/-- The setup of the log: what the command line says, else what the settings say. -/
def Invocation.logSetup (i : Invocation) (s : Settings) : LogSetup :=
  let threshold := if i.logLevel = "" then s.logLevel.number
    else (Level.ofName? (Text.uppercase i.logLevel)).getD LogLevel.info.number
  let file := if i.logFile = "" then s.logFile.bind fun f => if f = "" then none else some f
    else some i.logFile
  .make threshold file (!i.plainConsole)

/-- What an invocation leads to. Until the settings are known there is no log, and
    warnings are said on the console without any ornament. -/
def Invocation.run (i : Invocation) (w : Surroundings) : RunResult :=
  match i.command with
  | none => ⟨ErrorKind.input.exitCode, helpText, {}⟩
  | some command =>
    let (notes, loaded) := Settings.load w.readFile i.config w.environment
    let unset : LogSetup := ⟨LogLevel.warning.number, []⟩
    let written := unset.writeAll w.stamp notes {}
    match loaded with
    | .error f => reportFailure f written
    | .ok s =>
      let setup := i.logSetup s
      let (records, outcome) := command.perform w s
      let written := setup.writeAll w.stamp records (setup.beginFiles written)
      match outcome with
      | .error f => reportFailure f written
      | .ok (code, text) => ⟨code, text, written⟩

/-- What the words of a command line lead to when they make no invocation. -/
def ParseEnd.result : ParseEnd → RunResult
  | .help => ⟨exitOk, helpText, {}⟩
  | .version => ⟨exitOk, versionText, {}⟩
  | .usage => ⟨ErrorKind.input.exitCode, "", ({} : Written).sayLine "Error: invalid command line"⟩

end CommandLine

end SqlCatalog
