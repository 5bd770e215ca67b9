import SqlCatalog.Error

/-!
# Identifiers

The grammar of the names that may be embedded in a query: ASCII letters, digits
and the four marks underscore, hash, at and dollar, between 1 and 127 of them.
No quoting routine sees a name outside this grammar.

## Main definitions

* `Identifier.isNameChar`: The characters of a name.
* `Identifier.isValid`: Whether a value is a name.
* `Identifier.require`: The name, or an error that says what it should have named.
* `Identifier.resolveSchema`: The caller's schema or the default one.
-/

namespace SqlCatalog

namespace Identifier

/-- The longest name, in characters. -/
def maxLength : Nat := 127

/-- The characters of a name. -/
def isNameChar (c : Char) : Bool :=
  c.isAlphanum || c == '_' || c == '#' || c == '@' || c == '$'

/-- Whether a text is a name. -/
def isName (s : List Char) : Bool :=
  !s.isEmpty && s.length ≤ maxLength && s.all isNameChar

/-- Whether a value is a name. Only texts are. -/
def isValid : Value → Bool
  | .text s => isName s.toList
  | _ => false

/-- The value as a name. The error says what the name should have designated. -/
def require (v : Value) (kind : String) : Outcome String :=
  match v with
  | .text s => if isName s.toList then .ok s else refuse (.identifier v kind)
  | _ => refuse (.identifier v kind)

/-- The caller's schema where there is one, else the default. An empty default is
    allowed; anything else has to be a name. -/
def resolveSchema (schema : Value) (default : String) : Outcome String :=
  let resolved := if schema.isTruthy then schema else .text default
  if resolved.isTruthy then require resolved "schema" else .ok ""

end Identifier

end SqlCatalog
