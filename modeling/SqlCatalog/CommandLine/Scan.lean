import SqlCatalog.CommandLine.Argument

/-!
# Scanning a Command Line

The words of a command line from left to right. Options may stand anywhere
between the words; what nobody asked for is kept in mind, because a request for
help further to the right comes first.

## Main definitions

* `Grammar`: The options of a command, and the word that it wants.
* `Scan`: What was found so far.
* `Grammar.scan`: The scan of a command line.
-/

namespace SqlCatalog

namespace CommandLine

/-- The word that a command wants besides its options: none, one that is accepted, or
    the name of another command, to which all that follows belongs. -/
inductive Wanted where
  | nothing
  | one (accepts : String → Bool)
  | command

/-- The options of a command, the values that they accept, and the word that is wanted. -/
structure Grammar where
  options : List OptionSpec
  accepts : String → String → Bool := fun _ _ => true
  wanted : Wanted := .nothing

/-- What was found on a command line: options with their values, the word that was
    wanted, what follows the name of a command, and whether anything was left over. -/
structure Scan where
  given : List (String × String) := []
  word : Option String := none
  tail : List String := []
  leftover : Bool := false

namespace Scan

/-- The scan with one more option. -/
def add (s : Scan) (o : OptionSpec) (v : String) : Scan :=
  { s with given := s.given ++ [(o.names.headD "", v)] }

/-- The scan with something that nobody asked for. -/
def passOver (s : Scan) : Scan := { s with leftover := true }

/-- Whether an option was given. -/
def has (s : Scan) (name : String) : Bool := s.given.any (·.1 == name)

/-- All values that an option was given. -/
def valuesOf (s : Scan) (name : String) : List String :=
  (s.given.filter (·.1 == name)).map (·.2)

/-- The last value that an option was given. -/
def last? (s : Scan) (name : String) : Option String := (s.valuesOf name).getLast?

end Scan

/-- What letters behind the short name of the help lead to. The name may be repeated,
    and other letters are passed over, but for a dash or an equals sign. -/
def clusterEnd (letters : List Char) : ParseEnd :=
  match letters.dropWhile (· == 'h') with
  | '=' :: _ | '-' :: _ => .usage
  | _ => .help

namespace Grammar

/-- The scan of a command line. -/
def scan (g : Grammar) : Classified → Scan → Except ParseEnd Scan
  | [], s => .ok s
  | (_, .cluster letters) :: _, _ => .error (clusterEnd letters)
  | (_, .unknown) :: rest, s => g.scan rest s.passOver
  | (_, .option o inlineValue) :: rest, s =>
    match o.kind, inlineValue, rest with
    | .help, none, _ => .error .help
    | .version, none, _ => .error .version
    | .switch, none, rest => g.scan rest (s.add o "")
    | .value, some v, rest =>
      if g.accepts (o.names.headD "") v then g.scan rest (s.add o v) else .error .usage
    | .value, none, (_, .word v) :: rest =>
      if g.accepts (o.names.headD "") v then g.scan rest (s.add o v) else .error .usage
    | _, _, _ => .error .usage
  | (_, .separator) :: rest, s =>
    match g.wanted, s.word, rest with
    | .one accepts, none, (_, .word w) :: rest =>
      if accepts w then g.scan rest { s with word := some w } else .error .usage
    | .command, none, _ => .error .usage
    | _, _, rest => g.scan rest s.passOver
  | (_, .word w) :: rest, s =>
    match g.wanted, s.word, rest with
    | .one accepts, none, (_, .separator) :: rest =>
      if accepts w then g.scan rest { s with word := some w } else .error .usage
    | .one accepts, none, rest =>
      if accepts w then g.scan rest { s with word := some w } else .error .usage
    | .command, none, rest => .ok { s with word := some w, tail := rest.map (·.1) }
    | _, _, rest => g.scan rest s.passOver

/-- The scan of the words of a command line. -/
def scanWords (g : Grammar) (words : List String) : Except ParseEnd Scan := do
  let classified ← classify g.options words
  g.scan classified {}

end Grammar

end CommandLine

end SqlCatalog
