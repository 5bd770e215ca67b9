import SqlCatalog.Gate.Normal
import SqlCatalog.Proofs.Text.LetterCase

/-!
# Structural Characters

The characters that decide how a query text is put together: blanks, the tight
marks around which blanks are dropped, and the quote marks. Everything the normal
form does to a text depends on these alone, so they are the characters that a
change of letter case must neither touch nor bring forth.

Upper case is a table outside ASCII, and both facts are read off that table at once:
the structural characters are neither among the letters that have a capital nor among
the capitals.

## Main definitions

* `isStructural`: The characters that decide how a text is put together.
* `structuralCodes`: Their code points.

## Theorems

* `upperChar_of_structural`: Upper case keeps a structural character.
* `upperChar_of_not_structural`: Upper case of any other character is free of them.
* `mem_upper_iff`: A structural character occurs in a text just as in its upper case.
* `upperChar_ne_nil`: No character vanishes in upper case.
-/

namespace SqlCatalog

namespace Gate

/-- The characters that decide how a text is put together: blanks, tight marks and
    quote marks. -/
def isStructural (c : Char) : Bool :=
  Text.isBlank c || isTight c || c == '\'' || c == '"' || c == '[' || c == ']'

theorem isStructural_of_isBlank {c : Char} (h : Text.isBlank c = true) :
    isStructural c = true := by
  rw [isStructural, h]
  rfl

theorem isStructural_of_isTight {c : Char} (h : isTight c = true) : isStructural c = true := by
  rw [isStructural, h]
  simp

/-- The code points of the structural characters. -/
def structuralCodes : List Nat :=
  [0x09, 0x0A, 0x0B, 0x0C, 0x0D, 0x1C, 0x1D, 0x1E, 0x1F, 0x20, 0x22, 0x27, 0x28, 0x29, 0x2C,
    0x3B, 0x5B, 0x5D, 0x85, 0xA0, 0x1680, 0x2000, 0x2001, 0x2002, 0x2003, 0x2004, 0x2005,
    0x2006, 0x2007, 0x2008, 0x2009, 0x200A, 0x2028, 0x2029, 0x202F, 0x205F, 0x3000]

theorem mem_structuralCodes_of_range (a len : Nat) {n : Nat} (hlo : a ≤ n) (hhi : n < a + len)
    (hrange : ∀ m ∈ List.range' a len, m ∈ structuralCodes) : n ∈ structuralCodes :=
  hrange n (List.mem_range'_1.mpr ⟨hlo, hhi⟩)

theorem mem_structuralCodes_of_isBlank {c : Char} (h : Text.isBlank c = true) :
    c.toNat ∈ structuralCodes := by
  simp only [Text.isBlank, Bool.or_eq_true, Bool.and_eq_true, decide_eq_true_eq, beq_iff_eq,
    or_assoc] at h
  rcases h with ⟨hlo, hhi⟩ | ⟨hlo, hhi⟩ | h | h | h | ⟨hlo, hhi⟩ | h | h | h | h | h
  · exact mem_structuralCodes_of_range 0x09 5 hlo (by omega) (by decide)
  · exact mem_structuralCodes_of_range 0x1C 5 hlo (by omega) (by decide)
  · rw [h]; decide
  · rw [h]; decide
  · rw [h]; decide
  · exact mem_structuralCodes_of_range 0x2000 11 hlo (by omega) (by decide)
  all_goals rw [h]; decide

theorem mem_structuralCodes {c : Char} (h : isStructural c = true) :
    c.toNat ∈ structuralCodes := by
  simp only [isStructural, isTight, Bool.or_eq_true, beq_iff_eq, or_assoc] at h
  rcases h with hblank | h
  · exact mem_structuralCodes_of_isBlank hblank
  · rcases h with h | h | h | h | h | h | h | h <;> rw [h] <;> decide

/-- No structural character has a capital or is one. -/
theorem bits_structuralCodes :
    Text.bits structuralCodes &&& (Text.smallLetters ||| Text.capitals) = 0 := by
  decide +kernel

/-- Upper case keeps a structural character. -/
theorem upperChar_of_structural {c : Char} (h : isStructural c = true) :
    Text.upperChar c = [c] := by
  have hcode := Text.testBit_bits (mem_structuralCodes h)
  refine Text.upperChar_of_not_small (Bool.eq_false_iff.mpr fun hsmall => ?_)
  refine Text.ne_of_testBit bits_structuralCodes hcode ?_ rfl
  rw [Nat.testBit_or, hsmall, Bool.true_or]

/-- Upper case of a character that is not structural brings forth none that is. -/
theorem upperChar_of_not_structural {c d : Char} (h : isStructural c = false)
    (hd : d ∈ Text.upperChar c) : isStructural d = false := by
  rcases Text.mem_upperChar_cases hd with ⟨hascii, rfl⟩ | ⟨rfl, -⟩ | hcapital
  · exact of_ascii (P := fun c => isStructural c = false → isStructural c.toUpper = false)
      (by decide +kernel) hascii h
  · exact h
  · rw [Bool.eq_false_iff]
    intro hd
    have hcode := Text.testBit_bits (mem_structuralCodes hd)
    refine Text.ne_of_testBit bits_structuralCodes hcode ?_ rfl
    rw [Nat.testBit_or, hcapital, Bool.or_true]

theorem upperExpansions_ne_nil : ∀ x ∈ Text.upperExpansions, x.2 ≠ [] := by
  decide +kernel

/-- No character vanishes in upper case. -/
theorem upperChar_ne_nil (c : Char) : Text.upperChar c ≠ [] := by
  unfold Text.upperChar
  split
  · exact List.cons_ne_nil _ _
  · split
    · rename_i expansion hl
      rw [Ne, List.map_eq_nil_iff]
      exact upperExpansions_ne_nil _ (mem_of_lookup hl)
    · exact List.cons_ne_nil _ _

/-- A structural character occurs in a text just as it occurs in its upper case. -/
theorem mem_upper_iff {m : Char} (hm : isStructural m = true) (s : List Char) :
    m ∈ Text.upper s ↔ m ∈ s := by
  rw [Text.upper, List.mem_flatMap]
  constructor
  · rintro ⟨c, hc, hmc⟩
    by_cases hs : isStructural c = true
    · rw [upperChar_of_structural hs, List.mem_singleton] at hmc
      rwa [hmc]
    · have hfree := upperChar_of_not_structural (by simpa using hs) hmc
      rw [hm] at hfree
      exact absurd hfree (by decide)
  · intro hms
    exact ⟨m, hms, by rw [upperChar_of_structural hm]; exact List.mem_singleton_self m⟩

end Gate

end SqlCatalog
