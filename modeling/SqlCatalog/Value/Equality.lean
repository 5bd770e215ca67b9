import SqlCatalog.Value.Basic

/-!
# Equality, Keys and Order of Values

When two values are equal, which values can be the key of a group, and which
come before which. Truth values, integers and floating point numbers
compare by their number, containers of bytes by their data, moments in universal
time, lists item by item and maps without regard to the order of their entries.

## Main definitions

* `Value.numberOrder?`: The order of two numbers of any kind.
* `Value.equal`: Equality across kinds.
* `Value.isKey`: Whether a value can be a key.
* `Value.below?`: Whether one value comes before another, where that is defined.
* `Value.insertEntry`, `Value.ofEntries`, `Value.field`: Building and reading maps.
-/

namespace SqlCatalog

namespace Value

/-- The order of two values that are numbers. A NaN has none. -/
def numberOrder? : Value → Value → Option Ordering
  | .float x, .float y => x.compare? y
  | .float x, v => v.whole?.bind x.compareInt?
  | v, .float y => v.whole?.bind fun n => (y.compareInt? n).map Ordering.swap
  | v, w => do
    let m ← v.whole?
    let n ← w.whole?
    return compare m n

/-- Whether a value is a number. -/
def isNumber : Value → Bool
  | .bool _ | .int _ | .float _ => true
  | _ => false

mutual

/-- Equality of two values. -/
def equal : Value → Value → Bool
  | .null, .null => true
  | .text s, .text t => s == t
  | .bytes _ s, .bytes _ t => s == t
  | .timestamp s, .timestamp t => s.compare? t == some .eq
  | .date s, .date t => s == t
  | .list xs, .list ys => equalItems xs ys
  | .map xs, .map ys => xs.length == ys.length && containsEntries xs ys
  | v, w => v.numberOrder? w == some .eq

/-- Equality of two lists, item by item. -/
def equalItems : List Value → List Value → Bool
  | [], [] => true
  | x :: xs, y :: ys => equal x y && equalItems xs ys
  | _, _ => false

/-- Whether every entry of the first map stands in the second. -/
def containsEntries : List (Value × Value) → List (Value × Value) → Bool
  | [], _ => true
  | (k, v) :: rest, ys =>
    ys.any (fun (k', v') => equal k k' && equal v v') && containsEntries rest ys

end

/-- Whether a value can be a key. Values that can change are not. -/
def isKey : Value → Bool
  | .list _ | .map _ | .bytes .growable _ => false
  | _ => true

mutual

/-- Whether the first value comes before the second, where both are of kinds that are
    ordered against each other. A NaN comes neither before nor after a number. -/
def below? : Value → Value → Option Bool
  | .text s, .text t => some (s < t)
  | .bytes f s, .bytes g t =>
    if f = .view || g = .view then none else some (s.map UInt8.toNat < t.map UInt8.toNat)
  | .timestamp s, .timestamp t => (s.compare? t).map (· == .lt)
  | .date s, .date t => some ([s.year, s.month, s.day] < [t.year, t.month, t.day])
  | .list xs, .list ys => itemsBelow? xs ys
  | v, w => if v.isNumber && w.isNumber then some (v.numberOrder? w == some .lt) else none

/-- Of two lists the first difference decides, and a list comes before its
    continuations. -/
def itemsBelow? : List Value → List Value → Option Bool
  | [], ys => some !ys.isEmpty
  | _ :: _, [] => some false
  | x :: xs, y :: ys => if equal x y then itemsBelow? xs ys else below? x y

end

/-- The entries with one more. A key that is present keeps its place and gets the new
    value. -/
def insertEntry (entries : List (Value × Value)) (k v : Value) : List (Value × Value) :=
  if entries.any fun e => e.1.equal k then
    entries.map fun e => if e.1.equal k then (e.1, v) else e
  else entries ++ [(k, v)]

/-- A map from entries in which a key may be repeated. -/
def ofEntries (entries : List (Value × Value)) : Value :=
  .map (entries.foldl (fun done (k, v) => insertEntry done k v) [])

/-- The value under a text key, null where there is none. -/
def field (name : String) : List (Value × Value) → Value
  | [] => .null
  | (.text k, v) :: rest => if k = name then v else field name rest
  | _ :: rest => field name rest

end Value

end SqlCatalog
