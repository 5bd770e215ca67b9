/-!
# Powers

Powers with an integer as exponent, of which the negative ones count as zero. A
ratio is scaled by a power and the power of the opposite exponent, one on each
side, so that no case has to be told apart.

## Main definitions

* `Number.power`: A power.
-/

namespace SqlCatalog

namespace Number

/-- A power of a base; a negative exponent counts as zero. -/
def power (base : Nat) (exponent : Int) : Nat :=
  Nat.pow base exponent.toNat

/-- A power of a positive base is positive. -/
theorem power_pos {base : Nat} (h : 0 < base) (exponent : Int) : 0 < power base exponent :=
  Nat.pow_pos h

end Number

end SqlCatalog
