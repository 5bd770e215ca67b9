import SqlCatalog.Text.Blank

/-!
# Stacked Semicolons

A semicolon that is not the last mark of a text separates two statements. The
scan reads single quotes the way engines do that honour the backslash: inside a
literal a backslash takes the next character with it. A doubled quote closes and
opens again and needs no rule of its own.

## Main definitions

* `Place`: Where the scan stands.
* `stackedSemicolon?`: The first semicolon that separates two statements.
-/

namespace SqlCatalog

namespace Gate

/-- Where the scan stands: outside a literal, inside one, or behind a backslash
    inside one. -/
inductive Place where
  | outside
  | inside
  | escaped
deriving DecidableEq

namespace Place

/-- Where the scan stands after one more character. -/
def next : Place → Char → Place
  | .escaped, _ => .inside
  | .inside, c => if c = '\\' then .escaped else if c = '\'' then .outside else .inside
  | .outside, c => if c = '\'' then .inside else .outside

end Place

/-- The first semicolon outside literals that does not stand just before `size`,
    counting from `index`. -/
def stackedFrom (size : Nat) (place : Place) (index : Nat) : List Char → Option Nat
  | [] => none
  | c :: rest =>
    if place = .outside && c = ';' && index + 1 != size then some index
    else stackedFrom size (place.next c) (index + 1) rest

/-- The position of the first semicolon that separates two statements: outside
    single quotes, and not the last character that is not blank. -/
def stackedSemicolon? (s : List Char) : Option Nat :=
  stackedFrom (Text.trimEnd s).length .outside 0 s

end Gate

end SqlCatalog
