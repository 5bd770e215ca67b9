import Mathlib.Algebra.Order.Field.Rat
import Mathlib.Data.List.Induction
import Mathlib.Data.List.TakeWhile
import Mathlib.Data.Nat.Digits.Defs
import Mathlib.Tactic.Ring
import SqlCatalog.Value.Reading

/-!
# Integers That Values Stand For

A value is read as an integer in many places, and what is read is computed: blanks are dropped,
digits are folded, a mantissa is shifted. Here it is said without any of this which integer a
value stands for. A number stands for what is left of it toward zero, which two bounds tell. A
text stands for the integer that is written in it, and how integers are written is a grammar with
one case for each form.

## Main definitions

* `Stripped`: What is left of a text without the characters of a kind at both ends.
* `Number.Digits`, `Number.Numeral`: How digits and integers are written.
* `Binary64.HasIntegerPart`: The integer part of a number.
* `Value.Denotes`: The integer that a value stands for.
* `Value.IsMissing`: The values that stand for nothing.

## Theorems

* `stripped_iff`: Characters are dropped from both ends until others are met.
* `Number.readInteger_eq_some_iff`: What is read of a text is the integer that is written in it.
* `Binary64.truncate?_eq_some_iff`: The fraction of a number is cut off.
* `Value.integer_eq_ok_iff`: What is read of a value is the integer that it stands for.
* `Value.isTruthy_eq_false_iff`: The values that count as absent are those that are missing.
-/

namespace SqlCatalog

/-! ### Margins -/

/-- What is left of a text without the characters of a kind at both ends. -/
structure Stripped (p : Char → Bool) (text core : List Char) : Prop where
  between : ∃ before after, text = before ++ core ++ after ∧
    (∀ c ∈ before, p c = true) ∧ ∀ c ∈ after, p c = true
  first : ∀ c ∈ core.head?, p c = false
  last : ∀ c ∈ core.getLast?, p c = false

/-- Characters are dropped from the start of a text until another one is met. -/
theorem dropWhile_eq_iff {p : Char → Bool} {s t : List Char} :
    s.dropWhile p = t ↔
      (∃ before, s = before ++ t ∧ ∀ c ∈ before, p c = true) ∧ ∀ c ∈ t.head?, p c = false := by
  constructor
  · rintro rfl
    refine ⟨⟨s.takeWhile p, List.takeWhile_append_dropWhile.symm, fun c hc => ?_⟩, fun c hc => ?_⟩
    · exact List.all_eq_true.mp List.all_takeWhile c hc
    · have hhead := List.head?_dropWhile_not p s
      rw [Option.mem_def.mp hc] at hhead
      simpa using hhead
  · rintro ⟨⟨before, rfl, hbefore⟩, hhead⟩
    rw [List.dropWhile_append_of_pos hbefore]
    cases t with
    | nil => rfl
    | cons c rest => rw [List.dropWhile_cons, if_neg (by simp [hhead c rfl])]

/-- Characters are dropped from both ends of a text until others are met. -/
theorem stripped_iff {p : Char → Bool} {text core : List Char} :
    ((text.dropWhile p).reverse.dropWhile p).reverse = core ↔ Stripped p text core := by
  rw [List.reverse_eq_iff, dropWhile_eq_iff, List.head?_reverse]
  constructor
  · rintro ⟨⟨after, hrest, hafter⟩, hlast⟩
    rw [List.reverse_eq_iff, List.reverse_append, List.reverse_reverse, dropWhile_eq_iff] at hrest
    obtain ⟨⟨before, htext, hbefore⟩, hfirst⟩ := hrest
    refine ⟨⟨before, after.reverse, ?_, hbefore, fun c hc => hafter c (List.mem_reverse.mp hc)⟩,
      fun c hc => hfirst c ?_, hlast⟩
    · rw [htext, List.append_assoc]
    · rw [List.head?_append, Option.mem_def.mp hc]
      rfl
  · rintro ⟨⟨before, after, rfl, hbefore, hafter⟩, hfirst, hlast⟩
    cases core with
    | nil =>
        -- Nothing is left, so both rows of characters are dropped at once.
        have hall : ∀ c ∈ before ++ [] ++ after, p c = true := by
          simpa [or_imp, forall_and] using And.intro hbefore hafter
        rw [List.dropWhile_eq_nil_iff.mpr hall]
        exact ⟨⟨[], rfl, by simp⟩, hlast⟩
    | cons c rest =>
        have hdrop : (before ++ (c :: rest) ++ after).dropWhile p = (c :: rest) ++ after := by
          rw [dropWhile_eq_iff]
          exact ⟨⟨before, List.append_assoc .., hbefore⟩, hfirst⟩
        rw [hdrop, List.reverse_append]
        exact ⟨⟨after.reverse, rfl, fun c hc => hafter c (List.mem_reverse.mp hc)⟩, hlast⟩

theorem Text.trimmed_eq_iff {text word : String} :
    Text.trimmed text = word ↔ Stripped Text.isBlank text.toList word.toList := by
  rw [← stripped_iff, ← String.toList_inj, Text.trimmed, String.toList_ofList]
  rfl

/-! ### Written integers -/

namespace Number

/-- Digits of any script, of which two neighbours may be separated by one underscore, with what
    they stand for. -/
inductive Digits : List Char → List Nat → Prop
  | last {c : Char} {d : Nat} (hdigit : Text.digitValue? c = some d) : Digits [c] [d]
  | next {c : Char} {d : Nat} {s : List Char} {ds : List Nat}
      (hdigit : Text.digitValue? c = some d) (rest : Digits s ds) : Digits (c :: s) (d :: ds)
  | separated {c : Char} {d : Nat} {s : List Char} {ds : List Nat}
      (hdigit : Text.digitValue? c = some d) (rest : Digits s ds) :
      Digits (c :: '_' :: s) (d :: ds)

/-- A number is written as a row of up to 4300 digits, the last of which are the units. -/
def IsRow (s : List Char) (n : Nat) : Prop :=
  ∃ ds, Digits s ds ∧ ds.length ≤ 4300 ∧ Nat.ofDigits 10 ds.reverse = n

/-- An integer is written as a row of digits, behind a sign or without one. -/
inductive Numeral : List Char → Int → Prop
  | unsigned {s : List Char} {n : Nat} (h : IsRow s n) : Numeral s n
  | positive {s : List Char} {n : Nat} (h : IsRow s n) : Numeral ('+' :: s) n
  | negative {s : List Char} {n : Nat} (h : IsRow s n) : Numeral ('-' :: s) (-n)

/-- A row of digits begins with a digit, and not with a sign or an underscore. -/
theorem Digits.exists_first {s : List Char} {ds : List Nat} (h : Digits s ds) :
    ∃ c rest, s = c :: rest ∧ c ≠ '_' ∧ c ≠ '+' ∧ c ≠ '-' := by
  have hmark {c : Char} {d : Nat} (hdigit : Text.digitValue? c = some d) :
      c ≠ '_' ∧ c ≠ '+' ∧ c ≠ '-' := by
    refine ⟨?_, ?_, ?_⟩ <;> rintro rfl <;> exact absurd hdigit.symm (Option.some_ne_none d)
  cases h with
  | last hdigit | next hdigit _ | separated hdigit _ => exact ⟨_, _, rfl, hmark hdigit⟩

theorem digitValues_eq_some_iff {s : List Char} {ds : List Nat} :
    digitValues s = some ds ↔ Digits s ds := by
  constructor
  · intro h
    fun_induction digitValues s generalizing ds with
    | case1 => exact absurd h (by simp)
    | case2 c =>
        obtain ⟨d, hd, rfl⟩ := Option.map_eq_some_iff.mp h
        exact .last hd
    | case3 c rest ih =>
        simp only [Option.bind_eq_bind, Option.bind_eq_some_iff, Option.pure_def,
          Option.some.injEq] at h
        obtain ⟨d, hd, more, hmore, rfl⟩ := h
        exact .separated hd (ih hmore)
    | case4 c rest hlast hseparated ih =>
        simp only [Option.bind_eq_bind, Option.bind_eq_some_iff, Option.pure_def,
          Option.some.injEq] at h
        obtain ⟨d, hd, more, hmore, rfl⟩ := h
        exact .next hd (ih hmore)
  · intro h
    induction h with
    | last hdigit => simp [digitValues, hdigit]
    | separated hdigit rest ih => simp [digitValues, hdigit, ih]
    | @next c d s ds hdigit rest ih =>
        obtain ⟨c', s', rfl, hunderscore, -⟩ := rest.exists_first
        rw [digitValues]
        · simp [hdigit, ih]
        · simp
        · rintro more ⟨rfl, -⟩
          exact hunderscore rfl

/-- Digits are folded from the most significant one on. -/
theorem ofDigits_eq (ds : List Nat) : ofDigits ds = Nat.ofDigits 10 ds.reverse := by
  induction ds using List.reverseRecOn with
  | nil => rfl
  | append_singleton ds d ih =>
      rw [ofDigits, List.foldl_append, List.reverse_append, List.reverse_singleton,
        List.singleton_append, Nat.ofDigits_cons, ← ih]
      exact Nat.add_comm _ _

theorem readDigits_eq_some_iff {s : List Char} {n : Nat} :
    readDigits s = some n ↔ IsRow s n := by
  simp only [readDigits, IsRow, Option.bind_eq_bind, Option.bind_eq_some_iff,
    digitValues_eq_some_iff, Option.ite_none_right_eq_some, Option.some.injEq, ofDigits_eq,
    maxDigits]

/-- What is read of a text is the integer that is written between its margins. -/
theorem readInteger_eq_some_iff {s : List Char} {n : Int} :
    readInteger s = some n ↔ ∃ core, Stripped isMargin s core ∧ Numeral core n := by
  have hcore (core : List Char) : Stripped isMargin s core ↔ withoutMargins s = core :=
    stripped_iff.symm
  simp only [hcore, exists_eq_left']
  rw [readInteger]
  generalize withoutMargins s = core
  constructor
  · intro h
    split at h
    all_goals
      obtain ⟨m, hm, rfl⟩ := Option.map_eq_some_iff.mp h
      have hrow := readDigits_eq_some_iff.mp hm
    · exact .positive hrow
    · exact .negative hrow
    · exact .unsigned hrow
  · intro h
    cases h with
    | positive hrow | negative hrow =>
        simp only [readDigits_eq_some_iff.mpr hrow]
        rfl
    | unsigned hrow =>
        obtain ⟨c, rest, rfl, -, hplus, hminus⟩ := hrow.choose_spec.1.exists_first
        split
        · rename_i heq
          exact absurd (List.cons.inj heq).1 hplus
        · rename_i heq
          exact absurd (List.cons.inj heq).1 hminus
        · rw [readDigits_eq_some_iff.mpr hrow]
          rfl

end Number

/-! ### Integer parts -/

/-- The integer part of a finite number: what is left of it toward zero. -/
def Binary64.HasIntegerPart (x : Binary64) (n : Int) : Prop :=
  ∃ negative m q, x = .finite negative m q ∧ (if negative then n ≤ 0 else 0 ≤ n) ∧
    (n.natAbs : ℚ) ≤ m * 2 ^ q ∧ (m : ℚ) * 2 ^ q < n.natAbs + 1

namespace Binary64

/-- The magnitude of a number is shifted by its exponent, and a quotient is rounded down. -/
theorem magnitude_eq_iff {m k : Nat} {q : Int} :
    (if q < 0 then m / Number.power 2 (-q) else m * Number.power 2 q) = k ↔
      (k : ℚ) ≤ m * 2 ^ q ∧ (m : ℚ) * 2 ^ q < k + 1 := by
  cases q with
  | ofNat e =>
      rw [if_neg (by simp), Int.ofNat_eq_natCast, zpow_natCast]
      have hpower : Number.power 2 (e : Int) = 2 ^ e := rfl
      rw [hpower]
      norm_cast
      omega
  | negSucc e =>
      rw [if_pos (Int.negSucc_lt_zero e), zpow_negSucc, Int.neg_negSucc]
      have hpower : Number.power 2 ((e + 1 : Nat) : Int) = 2 ^ (e + 1) := rfl
      have hpos : 0 < 2 ^ (e + 1) := Nat.two_pow_pos _
      rw [hpower, le_mul_inv_iff₀ (by positivity), mul_inv_lt_iff₀ (by positivity),
        Nat.div_eq_iff hpos]
      norm_cast
      rw [Nat.add_one_mul]
      omega

/-- The fraction of a number is cut off. -/
theorem truncate?_eq_some_iff {x : Binary64} {n : Int} :
    x.truncate? = some n ↔ x.HasIntegerPart n := by
  cases x with
  | nan | infinite negative =>
      refine ⟨fun h => absurd h (by simp [truncate?]), ?_⟩
      rintro ⟨_, _, _, hx, -⟩
      cases hx
  | finite negative m q =>
      have hpart : (finite negative m q).HasIntegerPart n ↔
          (if negative then n ≤ 0 else 0 ≤ n) ∧
            (if q < 0 then m / Number.power 2 (-q) else m * Number.power 2 q) = n.natAbs := by
        rw [magnitude_eq_iff]
        constructor
        · rintro ⟨_, _, _, hx, h⟩
          cases hx
          exact h
        · exact fun h => ⟨_, _, _, rfl, h⟩
      rw [hpart, truncate?, Option.some.injEq]
      generalize (if q < 0 then m / Number.power 2 (-q) else m * Number.power 2 q) = k
      cases negative <;> simp <;> omega

end Binary64

/-! ### Values -/

/-- The integer that a value stands for: a number without its fraction, a truth value as one or
    zero, or the integer that is written in a text or in bytes of ASCII. -/
inductive Value.Denotes : Value → Int → Prop
  | int (n : Int) : Denotes (.int n) n
  | bool (b : Bool) : Denotes (.bool b) (if b then 1 else 0)
  | float {x : Binary64} {n : Int} (h : x.HasIntegerPart n) : Denotes (.float x) n
  | text {s : String} {core : List Char} {n : Int} (hcore : Stripped Number.isMargin s.toList core)
      (h : Number.Numeral core n) : Denotes (.text s) n
  | bytes {form : BytesForm} {data : List UInt8} {core : List Char} {n : Int}
      (hascii : ∀ b ∈ data, b < 0x80)
      (hcore : Stripped Number.isMargin (data.map fun b => Char.ofNat b.toNat) core)
      (h : Number.Numeral core n) : Denotes (.bytes form data) n

/-- What is read of a value is the integer that it stands for. -/
theorem Value.integer_eq_ok_iff {v : Value} {n : Int} : v.integer = .ok n ↔ v.Denotes n := by
  have hreading {r : Option Int} : integer.ofReading r = .ok n ↔ r = some n := by
    cases r with
    | none => exact ⟨fun h => absurd h (by simp [integer.ofReading]), fun h => nomatch h⟩
    | some m => rw [integer.ofReading, Except.ok.injEq, Option.some.injEq]
  constructor
  · intro h
    cases v with
    | int m => exact Except.ok.inj h ▸ .int m
    | bool b => exact Except.ok.inj h ▸ (by cases b <;> exact .bool _)
    | float x =>
        cases x with
        | infinite negative => exact absurd h (by simp [integer])
        | nan | finite negative m q =>
            exact .float (Binary64.truncate?_eq_some_iff.mp (hreading.mp h))
    | text s =>
        obtain ⟨core, hcore, hwritten⟩ := Number.readInteger_eq_some_iff.mp (hreading.mp h)
        exact .text hcore hwritten
    | bytes form data =>
        rw [integer] at h
        split at h
        · rename_i hascii
          obtain ⟨core, hcore, hwritten⟩ := Number.readInteger_eq_some_iff.mp (hreading.mp h)
          exact .bytes (by simpa using hascii) hcore hwritten
        · exact absurd h (by simp)
    | null | timestamp | date | list | map => exact absurd h (by simp [integer])
  · intro h
    cases h with
    | int m => rfl
    | bool b => cases b <;> rfl
    | @float x _ hpart =>
        have hread := hreading.mpr (Binary64.truncate?_eq_some_iff.mpr hpart)
        obtain ⟨_, _, _, rfl, -⟩ := hpart
        exact hread
    | text hcore hwritten =>
        exact hreading.mpr (Number.readInteger_eq_some_iff.mpr ⟨_, hcore, hwritten⟩)
    | bytes hascii hcore hwritten =>
        rw [integer, if_pos (by simpa using hascii)]
        exact hreading.mpr (Number.readInteger_eq_some_iff.mpr ⟨_, hcore, hwritten⟩)

/-! ### Nothing -/

/-- The values that stand for nothing: the null value, false, zero of either sign, and what is
    empty. -/
inductive Value.IsMissing : Value → Prop
  | null : IsMissing .null
  | bool : IsMissing (.bool false)
  | int : IsMissing (.int 0)
  | float (negative : Bool) (exponent : Int) : IsMissing (.float (.finite negative 0 exponent))
  | text : IsMissing (.text "")
  | bytes (form : BytesForm) : IsMissing (.bytes form [])
  | list : IsMissing (.list [])
  | map : IsMissing (.map [])

/-- The values that count as absent are those that stand for nothing. -/
theorem Value.isTruthy_eq_false_iff {v : Value} : v.isTruthy = false ↔ v.IsMissing := by
  constructor
  · intro h
    cases v with
    | null => exact .null
    | bool b =>
        obtain rfl : b = false := h
        exact .bool
    | int n =>
        obtain rfl : n = 0 := by simpa [isTruthy] using h
        exact .int
    | float x =>
        cases x with
        | finite negative mantissa exponent =>
            obtain rfl : mantissa = 0 := by simpa [isTruthy, Binary64.isZero] using h
            exact .float negative exponent
        | _ => exact absurd h (by simp [isTruthy, Binary64.isZero])
    | text s =>
        obtain rfl : s = "" := by simpa [isTruthy] using h
        exact .text
    | bytes form data =>
        obtain rfl : data = [] := by simpa [isTruthy] using h
        exact .bytes form
    | timestamp t => exact absurd h (by simp [isTruthy])
    | date d => exact absurd h (by simp [isTruthy])
    | list items =>
        obtain rfl : items = [] := by simpa [isTruthy] using h
        exact .list
    | map entries =>
        obtain rfl : entries = [] := by simpa [isTruthy] using h
        exact .map
  · intro h
    cases h with
    | _ => rfl

/-- The values that count as present are those that are not missing. -/
theorem Value.isTruthy_iff_not_isMissing {v : Value} : v.isTruthy = true ↔ ¬v.IsMissing := by
  rw [← isTruthy_eq_false_iff, Bool.not_eq_false]

end SqlCatalog
