import SqlCatalog.CommandLine.Scan
import SqlCatalog.Layout.Style
import SqlCatalog.Number.IntegerText
import SqlCatalog.Query.Operation

/-!
# Invocations

What a command line asks for: settings of the run and one of three commands. A
text can be put to the gate, the query of an operation can be written out, and
the operations can be listed.

## Main definitions

* `BuildOptions`: What is said about a query that is to be written out.
* `Command`, `Invocation`: What is asked for.
* `Invocation.parse`: The invocation that the words of a command line make.
-/

namespace SqlCatalog

namespace CommandLine

/-- What is said about a query that is to be written out. -/
structure BuildOptions where
  operation : Operation
  driver : String := ""
  schema : String := ""
  name : String := ""
  table : String := ""
  columns : List String := []
  orderBy : String := ""
  orderDirection : String := "ASC"
  limit : Option Int := none
  offset : Option Int := none
  functionType : String := "all"
  objectTypes : List String := []
  searchInCode : Bool := false
  excludeDisabled : Bool := false
  arguments : List String := []
  style : Layout.Style := .compact

/-- A command. -/
inductive Command where
  | validate (sql : String)
  | build (options : BuildOptions)
  | operations

/-- What a command line asks for. -/
structure Invocation where
  config : String := ""
  logLevel : String := ""
  logFile : String := ""
  plainConsole : Bool := false
  command : Option Command := none

/-- The option that every command has. -/
def helpOption : OptionSpec := ⟨["-h", "--help"], .help⟩

/-- The options that stand before a command. -/
def mainGrammar : Grammar where
  options := [helpOption, ⟨["--version"], .version⟩, ⟨["--config"], .value⟩,
    ⟨["--log-level"], .value⟩, ⟨["--log-file"], .value⟩, ⟨["--no-color"], .switch⟩]
  wanted := .command

/-- A query text is wanted. -/
def validateGrammar : Grammar where
  options := [helpOption]
  wanted := .one fun _ => true

/-- The options that take an integer. -/
def numberOptions : List String := ["--limit", "--offset"]

/-- Whether an option of a query accepts a value. -/
def acceptsBuildValue (name v : String) : Bool :=
  if numberOptions.contains name then (Number.readInteger v.toList).isSome
  else if name == "--style" then (Layout.Style.ofName? v).isSome
  else true

/-- The name of an operation is wanted. -/
def buildGrammar : Grammar where
  options := helpOption :: ["--driver", "--schema", "--name", "--table", "--column", "--order-by",
    "--order-direction", "--limit", "--offset", "--function-type", "--object-type", "--arg",
    "--style"].map (fun n => ⟨[n], .value⟩)
    ++ ["--search-in-code", "--exclude-disabled"].map fun n => ⟨[n], .switch⟩
  accepts := acceptsBuildValue
  wanted := .one fun w => (Operation.ofName? w).isSome

/-- Nothing is wanted. -/
def operationsGrammar : Grammar where
  options := [helpOption]

/-- What a scan says about a query that is to be written out. -/
def BuildOptions.ofScan (operation : Operation) (s : Scan) : BuildOptions :=
  let text (name default : String) : String := (s.last? name).getD default
  let number (name : String) : Option Int :=
    (s.last? name).bind fun v => Number.readInteger v.toList
  { operation
    driver := text "--driver" ""
    schema := text "--schema" ""
    name := text "--name" ""
    table := text "--table" ""
    columns := s.valuesOf "--column"
    orderBy := text "--order-by" ""
    orderDirection := text "--order-direction" "ASC"
    limit := number "--limit"
    offset := number "--offset"
    functionType := text "--function-type" "all"
    objectTypes := s.valuesOf "--object-type"
    searchInCode := s.has "--search-in-code"
    excludeDisabled := s.has "--exclude-disabled"
    arguments := s.valuesOf "--arg"
    style := ((s.last? "--style").bind Layout.Style.ofName?).getD .compact }

/-- The command with a name and the words that follow it, and whether anything was left
    over. -/
def Command.parse (name : String) (words : List String) : Except ParseEnd (Command × Bool) :=
  if name = "validate" then do
    let s ← validateGrammar.scanWords words
    match s.word with
    | some sql => return (.validate sql, s.leftover)
    | none => .error .usage
  else if name = "build" then do
    let s ← buildGrammar.scanWords words
    match s.word.bind Operation.ofName? with
    | some op => return (.build (.ofScan op s), s.leftover)
    | none => .error .usage
  else if name = "operations" then do
    let s ← operationsGrammar.scanWords words
    return (.operations, s.leftover)
  else .error .usage

/-- The invocation that the words of a command line make. -/
def Invocation.parse (words : List String) : Except ParseEnd Invocation := do
  let s ← mainGrammar.scanWords words
  let (command, leftover) ← match s.word with
    | none => pure (none, false)
    | some name => do
      let (command, leftover) ← Command.parse name s.tail
      pure (some command, leftover)
  if s.leftover || leftover then .error .usage
  else return ⟨(s.last? "--config").getD "", (s.last? "--log-level").getD "",
    (s.last? "--log-file").getD "", s.has "--no-color", command⟩

end CommandLine

end SqlCatalog
