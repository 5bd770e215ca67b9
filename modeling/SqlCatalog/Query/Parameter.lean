import SqlCatalog.Value.Equality
import SqlCatalog.Error
import SqlCatalog.Text.Case

/-!
# Procedure Parameters

The parameters of a stored procedure as its catalogue declares them, and the
arguments of a call put in the order of the declaration.

## Main definitions

* `ParameterInfo`: A declared parameter.
* `ParameterInfo.bareName`: Its name without the mark that some engines put before it.
* `orderArguments`: The arguments of a call in declaration order.
-/

namespace SqlCatalog

/-- A parameter of a stored procedure as the catalogue declares it. -/
structure ParameterInfo where
  name : Value
  typeName : Value
  isOutput : Bool

namespace ParameterInfo

/-- The name without the at signs and colons that some catalogues put before it. -/
def bareName (p : ParameterInfo) : Outcome String :=
  match p.name with
  | .text s => .ok (String.ofList (s.toList.dropWhile fun c => c == '@' || c == ':'))
  | .bytes .fixed _ | .bytes .growable _ => .error (.misuse .wrongKind)
  | _ => .error (.misuse .notText)

end ParameterInfo

/-- The arguments of a call: names of parameters with values, in the order given. -/
abbrev CallArguments := List (String × Value)

/-- The argument that a declared name designates. Case does not count; of two
    arguments that differ in case only the later one is meant. -/
def findArgument? (arguments : CallArguments) (name : String) : Option (String × Value) :=
  arguments.reverse.find? fun a => Text.lowercase a.1 == Text.lowercase name

/-- The arguments that the declared parameters take, in declaration order, each under
    the declared name and beside the name that the caller gave it. A parameter that
    only puts something out may be left out; where arguments go by position its place
    is still filled. -/
def matchArguments (byName : Bool) (arguments : CallArguments) :
    List ParameterInfo → Outcome (List (String × Value × Option String))
  | [] => .ok []
  | p :: rest => do
    let name ← p.bareName
    match findArgument? arguments name with
    | some (given, v) => do
      let more ← matchArguments byName arguments rest
      return (name, v, some given) :: more
    | none =>
      if !p.isOutput then refuse (.missingParameter name)
      else do
        let more ← matchArguments byName arguments rest
        return if byName then more else (name, .null, none) :: more

/-- The arguments of a call in declaration order. Arguments that no parameter takes
    are refused, by name and in order. -/
def orderArguments (byName : Bool) (arguments : CallArguments) (declared : List ParameterInfo) :
    Outcome CallArguments := do
  let taken ← matchArguments byName arguments declared
  let consumed := taken.filterMap fun (_, _, given) => given
  let unknown := (arguments.map (·.1)).filter fun name => !consumed.contains name
  if unknown.isEmpty then return taken.map fun (name, v, _) => (name, v)
  else refuse (.input (.unknownParameters (unknown.mergeSort fun a b => a ≤ b)))

end SqlCatalog
