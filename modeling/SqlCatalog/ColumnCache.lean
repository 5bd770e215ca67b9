import SqlCatalog.Error
import SqlCatalog.Text.Case

/-!
# Column Cache

The column lists of tables that were asked for lately. Browsing a table checks
every filter and sort column against the real columns, and the cache spares
asking the engine each time.

The cache holds a bounded number of lists. When it is full the list that has not
been used for the longest time makes room, and being found counts as use. The
entries are therefore kept in the order of their last use, the most recent one
at the end.

A list is kept for a short time only. Here no entry is past its time: one that
is counts as missing and is asked for again.

## Main definitions

* `ColumnCache`: The cached lists by key.
* `ColumnCache.key`: The key of a table.
* `ColumnCache.hit?`: A cached list, with the cache in which it is the latest.
* `ColumnCache.store`: The cache with one more list.
* `ColumnCache.ask`: A list from the cache, or else from a loader.
* `ColumnCache.forget`: The cache without the lists of a driver or of a table.

## Theorems

* `ColumnCache.length_store`: Storing keeps the bound.
-/

namespace SqlCatalog

/-- Column lists under keys, least recently used first, and how many of them are kept. None of
    them is past its time. -/
structure ColumnCache where
  capacity : Int := 256
  entries : List (String × List Value) := []

namespace ColumnCache

/-- The key of a table. Case counts in the name of the driver alone. -/
def key (driver schema table : String) : String :=
  driver ++ ":" ++ Text.lowercase schema ++ ":" ++ Text.lowercase table

/-- How many lists are cached. -/
def size (c : ColumnCache) : Nat := c.entries.length

/-- The entries without the one under a key. -/
def without (k : String) (entries : List (String × List Value)) : List (String × List Value) :=
  entries.filter fun e => e.1 != k

/-- The list under a key with the cache in which it was used last. -/
def hit? (c : ColumnCache) (k : String) : Option (List Value × ColumnCache) :=
  (c.entries.lookup k).map fun columns =>
    (columns, { c with entries := without k c.entries ++ [(k, columns)] })

/-- The cache with one more list, which is used last. The least recently used lists
    make room for it; a cache without any room cannot store. -/
def store (c : ColumnCache) (k : String) (columns : List Value) : Outcome ColumnCache :=
  if c.capacity < 1 then .error (.misuse .unusable)
  else
    let others := without k c.entries
    let kept := others.drop (others.length + 1 - c.capacity.toNat)
    .ok { c with entries := kept ++ [(k, columns)] }

/-- What asking the cache leads to: the columns or why there are none, whether the
    loader was asked, and the cache afterwards. -/
structure Reply where
  columns : Outcome (List Value)
  loaded : Bool
  cache : ColumnCache

/-- The list under a key, from the loader when it is not cached. A loader that fails
    leaves the cache as it was. -/
def ask (c : ColumnCache) (k : String) (load : Outcome (List Value)) : Reply :=
  match c.hit? k with
  | some (columns, cache) => ⟨.ok columns, false, cache⟩
  | none =>
    match load with
    | .error f => ⟨.error f, true, c⟩
    | .ok columns =>
      match c.store k columns with
      | .ok cache => ⟨.ok columns, true, cache⟩
      | .error f => ⟨.error f, true, c⟩

/-- The cache without any list. -/
def clear (c : ColumnCache) : ColumnCache := { c with entries := [] }

/-- The cache without the lists that are to be forgotten: all of them when no driver is
    named, the one of a table when a table is named, else those of the driver. -/
def forget (c : ColumnCache) (driver schema table : String) : ColumnCache :=
  if driver = "" then c.clear
  else if table = "" then
    { c with entries := c.entries.filter fun e => !(driver ++ ":").toList.isPrefixOf e.1.toList }
  else { c with entries := without (key driver schema table) c.entries }

/-- Storing keeps the number of lists within the bound. -/
theorem length_store {c d : ColumnCache} {k : String} {columns : List Value}
    (h : c.store k columns = .ok d) : (d.size : Int) ≤ c.capacity := by
  unfold store at h
  split at h
  · simp at h
  · simp only [Except.ok.injEq] at h
    rw [← h]
    simp only [size, List.length_append, List.length_drop, List.length_singleton]
    omega

end ColumnCache

end SqlCatalog
