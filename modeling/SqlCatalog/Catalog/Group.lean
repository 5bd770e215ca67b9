import SqlCatalog.Value.Equality

/-!
# Groups

Records collected under keys. Groups stand in the order in which their keys first
appear, and a later entry of a group never moves it.

## Main definitions

* `Groups`: Records under keys.
* `Groups.update`: A change to the record of a key, which is made when it is missing.

## Theorems

* `Groups.length_update`: An update adds at most one group.
-/

namespace SqlCatalog

/-- Records under keys, in the order in which the keys first appeared. -/
abbrev Groups (α : Type) := List (Value × α)

namespace Groups

/-- The groups after a change to the record of a key. A key that is missing is put at
    the end with a fresh record, which is changed likewise. -/
def update {α : Type} (key : Value) (fresh : α) (change : α → α) : Groups α → Groups α
  | [] => [(key, change fresh)]
  | (k, a) :: rest =>
    if k.equal key then (k, change a) :: rest else (k, a) :: update key fresh change rest

/-- The records of the groups, in order. -/
def records {α : Type} (groups : Groups α) : List α :=
  groups.map (·.2)

/-- An update adds at most one group. -/
theorem length_update {α : Type} (key : Value) (fresh : α) (change : α → α) (g : Groups α) :
    (update key fresh change g).length ≤ g.length + 1 := by
  induction g with
  | nil => simp [update]
  | cons entry rest ih =>
    obtain ⟨k, a⟩ := entry
    unfold update
    split
    · simp
    · simpa using ih

end Groups

end SqlCatalog
