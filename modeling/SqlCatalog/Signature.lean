import SqlCatalog.Error

/-!
# Signatures

Callers that are not typed hand arguments in by name. A signature says which
names are known and which of them have to be given; everything else about the
arguments is for the operation to say.

## Main definitions

* `Arguments`: Values by name.
* `Signature`: The names that an operation knows.
* `Signature.bind`: Arguments that fit a signature.
* `Arguments.valueOr`: An argument or its default.
-/

namespace SqlCatalog

/-- Values by name. -/
abbrev Arguments := List (String × Value)

/-- The value of an argument, or its default. -/
def Arguments.valueOr (given : Arguments) (name : String) (default : Value) : Value :=
  (given.lookup name).getD default

/-- The names that an operation knows: those that have to be given and the others. -/
structure Signature where
  required : List String := []
  optional : List String := []

namespace Signature

/-- Whether an operation knows a name. -/
def accepts (s : Signature) (name : String) : Bool :=
  s.required.contains name || s.optional.contains name

/-- The arguments, when they fit. A name that is not known is a misuse, and so is
    leaving out one that has to be given. -/
def bind (s : Signature) (given : Arguments) : Outcome Arguments :=
  if given.all (fun a => s.accepts a.1) && s.required.all (fun n => given.any (·.1 == n))
  then .ok given
  else .error (.misuse .wrongKind)

end Signature

end SqlCatalog
