import SqlCatalog.Error
import SqlCatalog.Number.IntegerText
import SqlCatalog.Number.Power

/-!
# Values Written as Text

The text of a value, where there is one. An integer is written with as many digits at most
as are read of one, so a value that holds a longer one, by itself or among its items, has no
text. Callers who only pass values on need not care; settings do, since a file can write in
base sixteen what nobody can write in base ten.

## Main definitions

* `Value.isWritable`: Whether a value has a text.
* `Value.written`: The text of a value, unless it has none.
-/

namespace SqlCatalog

namespace Value

mutual

/-- Whether a value has a text: no integer in it has more digits than are read of one. -/
def isWritable : Value → Bool
  | .int n => n.natAbs < Number.power 10 Number.maxDigits
  | .list items => itemsWritable items
  | .map entries => entriesWritable entries
  | _ => true

/-- Whether all items of a list have a text. -/
def itemsWritable : List Value → Bool
  | [] => true
  | v :: rest => isWritable v && itemsWritable rest

/-- Whether all entries of a map have a text. -/
def entriesWritable : List (Value × Value) → Bool
  | [] => true
  | (k, v) :: rest => isWritable k && isWritable v && entriesWritable rest

end

/-- The text of a value. One that has none cannot be used where a text is wanted. -/
def written (v : Value) : Outcome String :=
  if v.isWritable then .ok v.plain else .error (.misuse .unusable)

end Value

end SqlCatalog
