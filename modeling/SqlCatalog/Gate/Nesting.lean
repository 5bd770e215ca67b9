/-!
# Nesting of Parentheses

How deep the parentheses of a text are nested, and whether they match. The scan
stops at a closing parenthesis that nothing opened.

## Main definitions

* `Nesting`: Whether parentheses match, and the greatest depth that was reached.
* `nesting`: The nesting of a text.
-/

namespace SqlCatalog

namespace Gate

/-- Whether parentheses match, and the greatest depth that was reached. -/
structure Nesting where
  balanced : Bool
  depth : Nat
deriving DecidableEq

/-- The nesting of a text, given how many parentheses are open before it and the
    depth reached so far. -/
def nestingFrom (current deepest : Nat) : List Char → Nesting
  | [] => ⟨current == 0, deepest⟩
  | c :: rest =>
    if c = '(' then nestingFrom (current + 1) (max deepest (current + 1)) rest
    else if c = ')' then
      match current with
      | 0 => ⟨false, deepest⟩
      | k + 1 => nestingFrom k deepest rest
    else nestingFrom current deepest rest

/-- The nesting of a text. -/
def nesting (s : List Char) : Nesting :=
  nestingFrom 0 0 s

end Gate

end SqlCatalog
