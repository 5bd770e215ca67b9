/-!
# Code Point Spans

A property of characters is written down as a list of spans of code points.
Membership is a walk over the list: texts that reach the tables are short, and
a walk has the simplest laws.

## Main definitions

* `CodeSpan`: Consecutive code points.
* `CodeSpan.covers`: Whether some span of a list holds a character.

## Theorems

* `CodeSpan.covers_iff`: Coverage is membership in one of the spans.
-/

namespace SqlCatalog

namespace Text

/-- The code points from `first` to `last`, both ends included. -/
structure CodeSpan where
  first : Nat
  last : Nat
deriving DecidableEq

namespace CodeSpan

/-- Whether one of the spans holds the character. -/
def covers (spans : List CodeSpan) (c : Char) : Bool :=
  spans.any fun s => s.first ≤ c.toNat && c.toNat ≤ s.last

/-- A list of spans covers exactly the characters inside one of them. -/
theorem covers_iff {spans : List CodeSpan} {c : Char} :
    covers spans c = true ↔ ∃ s ∈ spans, s.first ≤ c.toNat ∧ c.toNat ≤ s.last := by
  simp [covers]

end CodeSpan

end Text

end SqlCatalog
