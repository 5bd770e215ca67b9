import SqlCatalog.Value.Basic

/-!
# Result Sets

What a query comes back with: the names of its columns, and rows of values.

## Main definitions

* `Row`: A row of values.
* `ResultSet`: Column names and rows.
* `firstRows`: The rows that a bounded fetch hands out.
-/

namespace SqlCatalog

/-- A row of values. -/
abbrev Row := List Value

/-- The columns and rows of a result. -/
structure ResultSet where
  columns : List String := []
  rows : List Row := []

namespace ResultSet

/-- How many rows a query of a caller gives when the caller does not say. -/
def defaultRows : Int := 100

/-- How many rows a query of a caller gives at most. -/
def maxRows : Int := 10000

end ResultSet

/-- The first rows of a result. A negative number leaves out so many at the end. -/
def firstRows (count : Int) (rows : List Row) : List Row :=
  rows.take (if count < 0 then rows.length - count.natAbs else count.toNat)

end SqlCatalog
