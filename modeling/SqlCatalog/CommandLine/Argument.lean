import SqlCatalog.Text.DecimalDigit

/-!
# Command Line Arguments

What the words of a command line are: options, their values, and the words that
are neither. An option may be cut short as long as no other one begins alike, and
may carry its value behind an equals sign. Negative numbers and texts with a
space are no options although they begin with a dash; behind a double dash
nothing is.

## Main definitions

* `OptionSpec`: An option with its names.
* `Argument`: What a word is.
* `classify`: The words of a command line, each with what it is.
-/

namespace SqlCatalog

namespace CommandLine

/-- What an option does. -/
inductive OptionKind where
  | help
  | version
  | switch
  | value
deriving DecidableEq

/-- An option with its names, by the first of which it is known. -/
structure OptionSpec where
  names : List String
  kind : OptionKind := .value
deriving DecidableEq

/-- Why a command line is not carried out: it asks for help or for the version, or it
    is not well formed. -/
inductive ParseEnd where
  | help
  | version
  | usage
deriving DecidableEq

/-- What a word of a command line is. The letters of a cluster follow a name of one
    letter in the same word. -/
inductive Argument where
  | word (s : String)
  | option (o : OptionSpec) (inlineValue : Option String)
  | cluster (letters : List Char)
  | unknown
  | separator
deriving DecidableEq

/-- A word beside what it is. -/
abbrev Classified := List (String × Argument)

/-- The option with a name. -/
def findOption? (options : List OptionSpec) (name : String) : Option OptionSpec :=
  options.find? fun o => o.names.contains name

/-- A word before its first equals sign, and what stands behind that. -/
def splitValue (s : List Char) : String × Option String :=
  let name := s.takeWhile (· != '=')
  match s.drop name.length with
  | [] => (String.ofList name, none)
  | _ :: v => (String.ofList name, some (String.ofList v))

/-- The options that have a long name with this beginning, once for each such name. -/
def abbreviated (options : List OptionSpec) (beginning : String) : List OptionSpec :=
  options.flatMap fun o =>
    (o.names.filter fun n => beginning.toList.isPrefixOf n.toList).map fun _ => o

/-- Whether a text is a row of digits. -/
def allDigits (s : List Char) : Bool :=
  !s.isEmpty && s.all fun c => (Text.digitValue? c).isSome

/-- Whether a word is a negative number: digits behind the dash, or a point between
    digits of which the first ones may be missing. A line end may follow. -/
def isNegativeNumber (s : List Char) : Bool :=
  match s with
  | '-' :: rest =>
    let rest := if rest.getLast? == some '\n' then rest.dropLast else rest
    let whole := rest.takeWhile (· != '.')
    match rest.drop whole.length with
    | [] => allDigits whole
    | _ :: fraction => (whole.isEmpty || allDigits whole) && allDigits fraction
  | _ => false

/-- A word that begins with a dash and names no option in full. -/
def classifyOther (options : List OptionSpec) (s : String) : Except ParseEnd Argument :=
  let chars := s.toList
  let rest : Argument :=
    if isNegativeNumber chars || chars.contains ' ' then .word s else .unknown
  match chars with
  | '-' :: '-' :: _ =>
    let (beginning, v) := splitValue chars
    match abbreviated options beginning with
    | [] => .ok rest
    | [o] => .ok (.option o v)
    | _ => .error .usage
  | '-' :: c :: letters =>
    match findOption? options (String.ofList ['-', c]) with
    | some _ => .ok (.cluster letters)
    | none => .ok rest
  | _ => .ok rest

/-- What a word is. -/
def classifyWord (options : List OptionSpec) (s : String) : Except ParseEnd Argument :=
  let chars := s.toList
  if chars.head? != some '-' || chars = ['-'] then .ok (.word s)
  else match findOption? options s with
    | some o => .ok (.option o none)
    | none =>
      match splitValue chars with
      | (name, some v) =>
        match findOption? options name with
        | some o => .ok (.option o (some v))
        | none => classifyOther options s
      | (_, none) => classifyOther options s

/-- The words of a command line, each with what it is. A word that could be short for
    several options makes the whole line ill formed. -/
def classify (options : List OptionSpec) : List String → Except ParseEnd Classified
  | [] => .ok []
  | s :: rest =>
    if s = "--" then .ok ((s, .separator) :: rest.map fun t => (t, .word t))
    else do
      let a ← classifyWord options s
      let more ← classify options rest
      return (s, a) :: more

end CommandLine

end SqlCatalog
