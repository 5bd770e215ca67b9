import SqlCatalog.Value.Basic

/-!
# Errors

What can go wrong, kept as causes. Four families reach a caller: the
configuration cannot be resolved, an input is out of range or malformed, the
gate refuses a query, or running a query fails. The wording of each cause is in
one place, and the exit code of a command follows from the family alone.

A `Failure` is wider than an `Error`: besides the errors of the library it holds
what a connection raises on its own account, and the misuse of a value that has
no meaning where it was handed in.

## Main definitions

* `ConfigurationFault`, `InputFault`, `FilterFault`: The causes of the larger families.
* `Error`: An error of the library.
* `Error.kind`, `ErrorKind.parent?`: The family an error belongs to.
* `Error.message`, `Error.exitCode`: Its wording and the exit code of a command.
* `Failure`: Anything that can end an operation early.
-/

namespace SqlCatalog

/-- Why the configuration cannot be resolved. -/
inductive ConfigurationFault where
  | unknownDriver (name : Value)
  | fileNotFound (path : String)
  | unreadable (path : String)
  | notMapping (path : String)
  | logLevel (value : Value)
  | defaultSchema (value : Value)
  | notInteger (setting : String) (value : Value)
  | notPositive (setting : String) (number : Int)
  | stated (message : String)

/-- Why a row filter cannot be used. -/
inductive FilterFault where
  | unknownOperator (value : Value)
  | notMapping
  | noColumn
  | needsText (operator : String)
  | stated (message : String)

/-- Why an input is refused. -/
inductive InputFault where
  | page (number : Int)
  | pageSize (number : Int)
  | limit (value : Value)
  | offset (value : Value)
  | orderDirection (direction : String)
  | functionType
  | searchTerm
  | operation (value : Value)
  | unknownParameters (names : List String)
  | unknownColumn (column : String)
  | notFound (kind : String) (name : String)
  | argumentPair (pair : String)
  | stated (message : String)

/-- An error of the library. -/
inductive Error where
  | general (message : String)
  | configuration (fault : ConfigurationFault)
  | unsupported (feature : String)
  | input (fault : InputFault)
  | identifier (name : Value) (kind : String)
  | missingParameter (parameter : String)
  | filter (fault : FilterFault)
  | rejected (rule reason : String)
  | noConnection (notice : String)
  | execution (operation : String) (cause : Option String)

/-- The families of errors. -/
inductive ErrorKind where
  | general
  | configuration
  | unsupported
  | input
  | identifier
  | missingParameter
  | filter
  | rejected
  | noConnection
  | execution
deriving DecidableEq

namespace ErrorKind

/-- The wider family that a family belongs to. -/
def parent? : ErrorKind → Option ErrorKind
  | .general => none
  | .configuration => some .general
  | .unsupported => some .configuration
  | .input => some .general
  | .identifier => some .input
  | .missingParameter => some .input
  | .filter => some .input
  | .rejected => some .general
  | .noConnection => some .general
  | .execution => some .general

/-- How many families stand above a family. -/
def depth : ErrorKind → Nat
  | .general => 0
  | .unsupported | .identifier | .missingParameter | .filter => 2
  | _ => 1

/-- The family above a family is nearer to the top. -/
theorem depth_parent {k p : ErrorKind} (h : k.parent? = some p) : p.depth < k.depth := by
  cases k <;> cases p <;> simp_all [parent?, depth]

/-- The family and everything above it, narrowest first. -/
def lineage (k : ErrorKind) : List ErrorKind :=
  match h : k.parent? with
  | none => [k]
  | some p =>
    have : p.depth < k.depth := depth_parent h
    k :: lineage p
termination_by k.depth

/-- The exit code of a command that ends with an error of the family. -/
def exitCode : ErrorKind → Nat
  | .rejected => 1
  | .input | .identifier | .missingParameter | .filter => 2
  | .configuration | .unsupported => 10
  | .general | .noConnection | .execution => 30

end ErrorKind

/-- The wording of a configuration fault. -/
def ConfigurationFault.message : ConfigurationFault → String
  | .unknownDriver name => "unrecognized database driver: " ++ name.shown
  | .fileNotFound path => "config file not found: " ++ path
  | .unreadable path => "invalid YAML in " ++ path
  | .notMapping path => "config file must contain a mapping: " ++ path
  | .logLevel value => "invalid log level: " ++ value.shown
  | .defaultSchema value => "invalid default schema: " ++ value.shown
  | .notInteger setting value => setting ++ " must be an integer, got " ++ value.shown
  | .notPositive setting number => setting ++ " must be positive, got " ++ toString number
  | .stated message => message

/-- The wording of a filter fault. -/
def FilterFault.message : FilterFault → String
  | .unknownOperator value => "unknown filter operator: " ++ value.shown
  | .notMapping => "filter must be an object with column and operator"
  | .noColumn => "filter column is required"
  | .needsText operator => operator ++ " requires a string value"
  | .stated message => message

/-- The wording of an input fault. -/
def InputFault.message : InputFault → String
  | .page number => "page must be >= 1, got " ++ toString number
  | .pageSize number => "page_size must be >= 1, got " ++ toString number
  | .limit value => "limit must be a positive integer, got " ++ value.shown
  | .offset value => "offset must be a non-negative integer, got " ++ value.shown
  | .orderDirection direction => "invalid order direction: " ++ Text.quoted direction
  | .functionType => "invalid function type - use: scalar, table, or all"
  | .searchTerm => "search_term is required"
  | .operation value => "unknown operation: " ++ value.shown
  | .unknownParameters names => "unknown procedure parameter(s): " ++ ", ".intercalate names
  | .unknownColumn column => "column does not exist: " ++ column
  | .notFound kind name => kind ++ " not found: " ++ name
  | .argumentPair pair => "procedure argument must be name=value, got " ++ Text.quoted pair
  | .stated message => message

namespace Error

/-- The narrowest family of an error. -/
def kind : Error → ErrorKind
  | .general _ => .general
  | .configuration _ => .configuration
  | .unsupported _ => .unsupported
  | .input _ => .input
  | .identifier .. => .identifier
  | .missingParameter _ => .missingParameter
  | .filter _ => .filter
  | .rejected .. => .rejected
  | .noConnection _ => .noConnection
  | .execution .. => .execution

/-- All that a caller is told about a rejected query; rule and reason go to the log. -/
def rejectionNotice : String := "query not allowed"

/-- What a caller is told when nothing is connected and nobody says more. -/
def connectionNotice : String := "no database connection, configure a datasource first"

/-- The wording of an error. -/
def message : Error → String
  | .general text => text
  | .configuration fault => fault.message
  | .unsupported feature => feature ++ " are not supported by this database"
  | .input fault => fault.message
  | .identifier name kind => "invalid " ++ kind ++ " name: " ++ name.shown
  | .missingParameter parameter => "missing required parameter: " ++ parameter
  | .filter fault => fault.message
  | .rejected .. => rejectionNotice
  | .noConnection notice => if notice = "" then connectionNotice else notice
  | .execution operation cause =>
    "error " ++ operation ++ (match cause with | none => "" | some c => ": " ++ c)

/-- The exit code of a command that ends with the error. -/
def exitCode (e : Error) : Nat := e.kind.exitCode

end Error

/-- The use of a value that has no meaning where it was handed in. -/
inductive Misuse where
  /-- The operation is not defined on values of this kind. -/
  | wrongKind
  /-- A text operation on a value that is not a text. -/
  | notText
  /-- A row has no cell at this position. -/
  | noSuchCell
  /-- An infinite number has no integer part. -/
  | unbounded
  /-- The value is of the right kind but cannot be used. -/
  | unusable
deriving DecidableEq

/-- Anything that can end an operation early: an error of the library, a failure
    that a connection raises, or a misuse. -/
inductive Failure where
  | error (e : Error)
  | raised (message : String)
  | misuse (m : Misuse)

/-- The outcome of an operation that may fail. -/
abbrev Outcome (α : Type) := Except Failure α

/-- Ends an operation with an error of the library. -/
def refuse {α : Type} (e : Error) : Outcome α :=
  .error (.error e)

end SqlCatalog
