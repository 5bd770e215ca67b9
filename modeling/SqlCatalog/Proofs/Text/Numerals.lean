/-!
# Numerals

Integers written in the usual way: digits, behind a sign when the number is negative. The sign
is no digit and there always is a digit, so a written number is neither empty nor mistaken for
another one.

## Theorems

* `isDigit_of_mem_toString`: What a number is written with.
* `toList_number_ne_nil`: A number is not written as nothing.
* `number_inj`: A number is told by its digits and its sign.
-/

namespace SqlCatalog

/-- An integer is written with digits, behind a sign when it is negative. -/
theorem isDigit_of_mem_toString (i : Int) :
    ∀ c ∈ (toString i).toList, c.isDigit = true ∨ c = '-' := by
  have hnat : ∀ n : Nat, ∀ c ∈ (Nat.repr n).toList, c.isDigit = true := by
    intro n c hc
    rw [Nat.toList_repr] at hc
    exact Nat.isDigit_of_mem_toDigits (by decide) (by decide) hc
  cases i with
  | ofNat n => exact fun c hc => .inl (hnat n c hc)
  | negSucc n =>
      intro c hc
      have hc : c ∈ ("-" ++ Nat.repr (n + 1)).toList := hc
      rw [String.toList_append] at hc
      rcases List.mem_append.mp hc with hsign | hdigits
      · exact .inr (List.mem_singleton.mp hsign)
      · exact .inl (hnat _ c hdigits)

/-- A negative number is written behind a sign. -/
theorem toList_negSucc (n : Nat) :
    (toString (Int.negSucc n)).toList = '-' :: (Nat.repr (n + 1)).toList := by
  rw [show toString (Int.negSucc n) = "-" ++ Nat.repr (n + 1) from rfl, String.toList_append]
  rfl

/-- Any other is written without one. -/
theorem sign_not_mem_repr (n : Nat) : '-' ∉ (Nat.repr n).toList := by
  rw [Nat.toList_repr]
  exact fun hsign => absurd (Nat.isDigit_of_mem_toDigits (by decide) (by decide) hsign) (by decide)

/-- A number is not written as nothing. -/
theorem toList_number_ne_nil (i : Int) : (toString i).toList ≠ [] := by
  cases i with
  | ofNat n => exact fun hnil => Nat.repr_ne_empty (String.toList_eq_nil_iff.mp hnil)
  | negSucc n =>
      rw [toList_negSucc]
      exact List.cons_ne_nil _ _

/-- A number is told by its digits. -/
theorem repr_inj {m n : Nat} (h : Nat.repr m = Nat.repr n) : m = n := by
  have hdigits : Nat.toDigits 10 m = Nat.toDigits 10 n := String.ofList_injective h
  rw [← Nat.ofDigitChars_ten_toDigits (n := m), hdigits, Nat.ofDigitChars_ten_toDigits]

/-- So is a negative one behind its sign. -/
theorem number_inj {i j : Int} (h : toString i = toString j) : i = j := by
  have hlist : (toString i).toList = (toString j).toList := congrArg String.toList h
  cases i with
  | ofNat m =>
      cases j with
      | ofNat n => exact congrArg Int.ofNat (repr_inj h)
      | negSucc n =>
          rw [toList_negSucc] at hlist
          exact absurd (hlist ▸ List.mem_cons_self) (sign_not_mem_repr m)
  | negSucc m =>
      rw [toList_negSucc] at hlist
      cases j with
      | ofNat n => exact absurd (hlist ▸ List.mem_cons_self) (sign_not_mem_repr n)
      | negSucc n =>
          rw [toList_negSucc] at hlist
          have hdigits := repr_inj (String.toList_injective (List.cons.inj hlist).2)
          exact congrArg Int.negSucc (Nat.succ.inj hdigits)

end SqlCatalog
