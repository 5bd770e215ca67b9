import SqlCatalog.Number.Power

/-!
# Binary Floating Point

Double precision numbers as exact values: a sign, a natural number of at most
53 bits and a power of two. Every operation the library needs, which is to read
a decimal, to compare, to cut off a fraction and to print, is then exact integer
arithmetic, and nothing hangs on the machine's floating point.

## Main definitions

* `Binary64`: A double precision number.
* `Binary64.ofDecimal`: The nearest double of a decimal, ties to even.
* `Binary64.truncate?`: The integer part of a finite number.
* `Binary64.compare?`: Order against another number, none for a NaN.
-/

namespace SqlCatalog

open Number (power)

/-- A double precision number. A finite one is `± mantissa · 2 ^ exponent`. -/
inductive Binary64 where
  | nan
  | infinite (negative : Bool)
  | finite (negative : Bool) (mantissa : Nat) (exponent : Int)
deriving DecidableEq

namespace Binary64

/-- The number zero. -/
def zero : Binary64 := .finite false 0 (-1074)

/-- The quotient to the nearest natural number, a half going to the even one. -/
def roundHalfEven (num den : Nat) : Nat :=
  let q := num / den
  let twice := 2 * (num % den)
  if twice < den || (twice == den && q % 2 == 0) then q else q + 1

/-- Whether `num / den` is at least `2 ^ e`. -/
def reaches (num den : Nat) (e : Int) : Bool :=
  den * power 2 e ≤ num * power 2 (-e)

/-- The exponent of the last place of the double nearest to `num / den`: 52 places
    below the leading one, and never below the smallest double. -/
def lastPlace (num den : Nat) : Int :=
  let estimate : Int := (num.log2 : Int) - den.log2
  let leading := if reaches num den (estimate + 1) then estimate + 1
    else if reaches num den estimate then estimate else estimate - 1
  max (leading - 52) (-1074)

/-- The double nearest to `num / den`. -/
def ofRatio (negative : Bool) (num den : Nat) : Binary64 :=
  if num = 0 then .finite negative 0 (-1074) else
  let q := lastPlace num den
  let m := roundHalfEven (num * power 2 (-q)) (den * power 2 q)
  let (m, q) := if m = power 2 53 then (power 2 52, q + 1) else (m, q)
  if q > 971 then .infinite negative else .finite negative m q

/-- The double nearest to `digits · 10 ^ scale`. Decimals far outside the range of
    doubles are settled by their magnitude alone. -/
def ofDecimal (negative : Bool) (digits : Nat) (scale : Int) : Binary64 :=
  let magnitude : Int := (Nat.toDigits 10 digits).length + scale
  if digits = 0 || magnitude < -400 then .finite negative 0 (-1074)
  else if magnitude > 400 then .infinite negative
  else ofRatio negative (digits * power 10 scale) (power 10 (-scale))

/-- Whether the number is zero of either sign. -/
def isZero : Binary64 → Bool
  | .finite _ m _ => m == 0
  | _ => false

/-- The integer part of a finite number, toward zero. -/
def truncate? : Binary64 → Option Int
  | .finite negative m q =>
    let magnitude : Nat := if q < 0 then m / power 2 (-q) else m * power 2 q
    some (if negative then -magnitude else magnitude)
  | _ => none

/-- The signed mantissa. -/
def signed (negative : Bool) (m : Nat) : Int :=
  if negative then -(m : Int) else m

/-- The order of `a · 2 ^ p` and `b · 2 ^ q`. -/
def compareScaled (a : Int) (p : Int) (b : Int) (q : Int) : Ordering :=
  let low := min p q
  compare (a * power 2 (p - low)) (b * power 2 (q - low))

/-- The order of two numbers; a NaN is not ordered against anything. -/
def compare? : Binary64 → Binary64 → Option Ordering
  | .nan, _ => none
  | _, .nan => none
  | .infinite a, .infinite b => some (compare b.toNat a.toNat)
  | .infinite a, .finite .. => some (if a then .lt else .gt)
  | .finite .., .infinite b => some (if b then .gt else .lt)
  | .finite s m p, .finite t n q => some (compareScaled (signed s m) p (signed t n) q)

/-- The order of a number and an integer. -/
def compareInt? (x : Binary64) (n : Int) : Option Ordering :=
  match x with
  | .nan => none
  | .infinite negative => some (if negative then .lt else .gt)
  | .finite s m p => some (compareScaled (signed s m) p n 0)

end Binary64

end SqlCatalog
