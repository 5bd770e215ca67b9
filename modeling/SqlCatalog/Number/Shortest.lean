import SqlCatalog.Number.Binary64

/-!
# Shortest Decimals

A double is printed with the fewest digits that read back to it, and among those
with the digits nearest to it. The search goes over the grids of one digit, of
two digits and so on: if any point of a grid reads back, one of the two
neighbours of the value on that grid does.

## Main definitions

* `Shortest.readsBack`: Whether a decimal rounds to a double.
* `Shortest.digits`: The shortest decimal that reads back.
* `DecimalLayout`: How digits are laid out.
* `Binary64.render`: The text of a double in a layout.
-/

namespace SqlCatalog

open Number (power)

namespace Shortest

/-- The order of `a · 10 ^ i` and `n · 2 ^ j`. -/
def compareMixed (a : Nat) (i : Int) (n : Nat) (j : Int) : Ordering :=
  compare (a * power 10 i * power 2 (-j)) (n * power 2 j * power 10 (-i))

/-- Whether the gap below a double is half the gap above it, as it is above a power of two. -/
def narrowBelow (m : Nat) (q : Int) : Bool :=
  m == power 2 52 && -1074 < q

/-- Whether `a · 10 ^ i` lies among the numbers that round to `m · 2 ^ q`. The ends
    of that interval belong to it when the mantissa is even. -/
def readsBack (m : Nat) (q : Int) (a : Nat) (i : Int) : Bool :=
  let low := if narrowBelow m q then 4 * m - 1 else 4 * m - 2
  let below := compareMixed a i low (q - 2)
  let above := compareMixed a i (4 * m + 2) (q - 2)
  let even := m % 2 == 0
  (below == .gt || (even && below == .eq)) && (above == .lt || (even && above == .eq))

/-- The least `k` with `m · 2 ^ q < 10 ^ k`, found by stepping from an estimate. -/
def magnitude (m : Nat) (q : Int) : Int :=
  let bits : Int := m.log2 + q
  let estimate : Int := bits * 30103 / 100000
  let step (k : Int) : Int := if compareMixed 1 k m q == .gt then k else k + 1
  step (step (step (estimate - 1)))

/-- The better of the two neighbours of the value among the multiples of `10 ^ i`. -/
def nearestOnGrid (m : Nat) (q : Int) (i : Int) : Option Nat :=
  let num := m * power 2 q * power 10 (-i)
  let den := power 2 (-q) * power 10 i
  let down := num / den
  let up := down + 1
  match readsBack m q down i, readsBack m q up i with
  | true, true =>
    let middle := compare (2 * num) ((2 * down + 1) * den)
    some (if middle == .lt || (middle == .eq && down % 2 == 0) then down else up)
  | true, false => some down
  | false, true => some up
  | false, false => none

/-- A decimal without zeros at its end. -/
def stripZeros : Nat → Nat → Int → Nat × Int
  | 0, a, i => (a, i)
  | fuel + 1, a, i => if a % 10 == 0 && a != 0 then stripZeros fuel (a / 10) (i + 1) else (a, i)

/-- The first grid, of one digit and more, that holds a decimal which reads back.
    Seventeen digits always suffice; the exact value is kept as a last resort. -/
def digits (m : Nat) (q : Int) : Nat × Int :=
  let k := magnitude m q
  let found := (List.range 17).findSome? fun (n : Nat) =>
    let i := k - (n + 1)
    (nearestOnGrid m q i).map fun a => stripZeros 18 a i
  found.getD (if q < 0 then (m * power 5 (-q), q) else (m * power 2 q, 0))

end Shortest

/-- How the digits of a number are laid out as text. The decimal point may stand
    from `lowest` to `highest` places after the first digit; outside, an exponent
    of at least `exponentWidth` digits is written. -/
structure DecimalLayout where
  lowest : Int
  highest : Int
  exponentWidth : Nat

namespace DecimalLayout

/-- The text of the digits with the decimal point after `point` of them. -/
def place (n : DecimalLayout) (ds : List Char) (point : Int) : List Char :=
  if n.lowest ≤ point && point ≤ n.highest then
    if point ≤ 0 then '0' :: '.' :: List.replicate (-point).toNat '0' ++ ds
    else if ds.length ≤ point.toNat then
      ds ++ List.replicate (point.toNat - ds.length) '0' ++ ['.', '0']
    else ds.take point.toNat ++ '.' :: ds.drop point.toNat
  else
    let e := point - 1
    let width := Nat.toDigits 10 e.natAbs
    ds.take 1 ++ (if ds.length ≤ 1 then [] else '.' :: ds.drop 1)
      ++ 'e' :: (if e < 0 then '-' else '+')
      :: List.replicate (n.exponentWidth - width.length) '0' ++ width

end DecimalLayout

namespace Binary64

/-- The text of a double: the fewest digits that read back, laid out as told. -/
def render (n : DecimalLayout) : Binary64 → String
  | .nan => "nan"
  | .infinite negative => if negative then "-inf" else "inf"
  | .finite negative m q =>
    let body :=
      if m = 0 then ['0', '.', '0']
      else
        let (a, i) := Shortest.digits m q
        let ds := Nat.toDigits 10 a
        n.place ds (ds.length + i)
    String.ofList (if negative then '-' :: body else body)

end Binary64

end SqlCatalog
