import SqlCatalog.Error
import SqlCatalog.Number.IntegerText

/-!
# Numbers Read from Values

The integer that a value stands for: a number without its fraction, or a text or
bytes in which an integer is written.

## Main definitions

* `Value.integer`: The integer that a value stands for, or why there is none.
* `Value.integerOrNone`: The same with nothing for values that cannot be read.

## Theorems

* `Value.integer_cases`: Why a value stands for no integer.
* `Value.integerOrNone_eq`: Nothing is read where there is no integer, unless there is an
  infinity.
-/

namespace SqlCatalog

namespace Value

/-- The integer that a value stands for. A value of another kind is a misuse, one that
    reads as no integer is unusable, and an infinity has no integer part. -/
def integer : Value → Outcome Int
  | .int n => .ok n
  | .bool b => .ok b.toNat
  | .float (.infinite _) => .error (.misuse .unbounded)
  | .float x => ofReading x.truncate?
  | .text s => ofReading (Number.readInteger s.toList)
  | .bytes _ data =>
    if data.all (· < 0x80) then
      ofReading (Number.readInteger (data.map fun b => Char.ofNat b.toNat))
    else .error (.misuse .unusable)
  | _ => .error (.misuse .wrongKind)
where
  /-- What was read, or the fact that nothing was. -/
  ofReading : Option Int → Outcome Int
    | some n => .ok n
    | none => .error (.misuse .unusable)

/-- The integer that a value stands for, none for null, for an empty text and for
    values that cannot be read as one. An infinity stays a failure. -/
def integerOrNone (v : Value) : Outcome (Option Int) :=
  match v with
  | .null => .ok none
  | .text "" => .ok none
  | v => match v.integer with
    | .ok n => .ok (some n)
    | .error (.misuse .wrongKind) => .ok none
    | .error (.misuse .unusable) => .ok none
    | .error f => .error f

/-- A value that stands for no integer is a misuse of one of three kinds. -/
theorem integer_cases (v : Value) :
    (∃ n, v.integer = .ok n) ∨ v.integer = .error (.misuse .wrongKind) ∨
      v.integer = .error (.misuse .unusable) ∨ ∃ negative, v = .float (.infinite negative) := by
  have hreading (r : Option Int) : (∃ n, integer.ofReading r = .ok n) ∨
      integer.ofReading r = .error (.misuse .unusable) := by
    cases r with
    | none => exact Or.inr rfl
    | some n => exact Or.inl ⟨n, rfl⟩
  cases v with
  | int n => exact Or.inl ⟨n, rfl⟩
  | bool b => exact Or.inl ⟨b.toNat, rfl⟩
  | float x =>
      cases x with
      | infinite negative => exact Or.inr (Or.inr (Or.inr ⟨negative, rfl⟩))
      | nan => exact Or.inr (Or.inr (Or.inl rfl))
      | finite negative m q =>
          refine (hreading (Binary64.finite negative m q).truncate?).imp_right fun h => ?_
          exact Or.inr (Or.inl h)
  | text s => exact (hreading _).imp_right fun h => Or.inr (Or.inl h)
  | bytes form data =>
      rw [integer]
      split
      · exact (hreading _).imp_right fun h => Or.inr (Or.inl h)
      · exact Or.inr (Or.inr (Or.inl rfl))
  | null | timestamp | date | list | map => exact Or.inr (Or.inl rfl)

/-- Null and the empty text need no rule of their own, since they stand for no integer as it is.
    Only an infinity is a failure instead. -/
theorem integerOrNone_eq {v : Value} (h : ∀ negative, v ≠ .float (.infinite negative)) :
    v.integerOrNone = .ok v.integer.toOption := by
  unfold integerOrNone
  split
  · rfl
  · rfl
  · rcases v.integer_cases with ⟨n, hn⟩ | hkind | hunusable | ⟨negative, hinfinite⟩
    · rw [hn]
      rfl
    · rw [hkind]
      rfl
    · rw [hunusable]
      rfl
    · exact absurd hinfinite (h negative)

end Value

end SqlCatalog
