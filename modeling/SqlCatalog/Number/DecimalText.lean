import SqlCatalog.Number.Binary64
import SqlCatalog.Number.IntegerText

/-!
# Decimals Written as Text

Reading a decimal with a point, an exponent or both to the nearest double, and
the names of the numbers that have no digits.

## Main definitions

* `Binary64.read?`: The double that a text stands for.
-/

namespace SqlCatalog

namespace Binary64

/-- The values of a row of ASCII digits. -/
def asciiDigits (s : List Char) : List Nat :=
  s.map fun c => c.toNat - '0'.toNat

/-- The exponent after its mark: a signed row of digits, or nothing. -/
def readExponent : List Char → Option Int
  | [] => some 0
  | e :: rest =>
    if e = 'e' || e = 'E' then
      let (negative, ds) := match rest with
        | '-' :: ds => (true, ds)
        | '+' :: ds => (false, ds)
        | ds => (false, ds)
      if ds.isEmpty || !ds.all Char.isDigit then none
      else
        let n : Int := Number.ofDigits (asciiDigits ds)
        some (if negative then -n else n)
    else none

/-- The double nearest to digits with an optional point and an optional exponent. -/
def readMagnitude (negative : Bool) (s : List Char) : Option Binary64 := do
  let whole := s.takeWhile Char.isDigit
  let afterWhole := s.dropWhile Char.isDigit
  let (fraction, afterFraction) := match afterWhole with
    | '.' :: rest => (rest.takeWhile Char.isDigit, rest.dropWhile Char.isDigit)
    | rest => ([], rest)
  if whole.isEmpty && fraction.isEmpty then none else
  let exponent ← readExponent afterFraction
  let digits := Number.ofDigits (asciiDigits (whole ++ fraction))
  return ofDecimal negative digits (exponent - fraction.length)

/-- The double that a text stands for: digits with a sign, or the name of an infinity
    or of the number that is none. -/
def read? (s : List Char) : Option Binary64 :=
  let (negative, body) := match s with
    | '-' :: rest => (true, rest)
    | '+' :: rest => (false, rest)
    | rest => (false, rest)
  if body = "inf".toList then some (.infinite negative)
  else if body = "nan".toList then some .nan
  else readMagnitude negative body

end Binary64

end SqlCatalog
