import SqlCatalog.Catalog.Record
import SqlCatalog.Proofs.Value.Integers

/-!
# Cells of Catalogue Rows

Catalogues leave cells out and write truth values in their own ways, so two readings stand
between a row and its record: a cell that is missing becomes an empty text, and a cell that says
yes becomes true. The records are only as good as these readings. If one of them lost what is
there, every index and every foreign key would be gathered correctly and still be wrong. They are
therefore said here once more, by the cells that they are about, and shown to be what is read.

## Main definitions

* `Catalog.Recorded`: What a record has for a cell that may be missing.
* `Catalog.Affirms`: The cells by which a catalogue says yes.

## Theorems

* `Catalog.recorded_iff`: A cell is recorded as itself, or as an empty text when it is missing.
* `Catalog.flag_eq_true_iff`: A cell is true when it says yes.
-/

namespace SqlCatalog

namespace Catalog

/-- What a record has for a cell that may be missing: the cell itself, or an empty text. -/
inductive Recorded : Value → Value → Prop
  | present {v : Value} (h : ¬v.IsMissing) : Recorded v v
  | missing {v : Value} (h : v.IsMissing) : Recorded v (.text "")

/-- A cell is recorded as itself unless it is missing, and it is recorded in one way. -/
theorem recorded_iff {v w : Value} : Recorded v w ↔ orEmpty v = w := by
  have hmissing : orEmpty v = if v.isTruthy then v else .text "" := rfl
  constructor
  · rintro (h | h)
    · rw [hmissing, if_pos (Value.isTruthy_iff_not_isMissing.mpr h)]
    · rw [hmissing, if_neg (Bool.eq_false_iff.mp (Value.isTruthy_eq_false_iff.mpr h))]
  · rintro rfl
    by_cases h : v.isTruthy = true
    · rw [hmissing, if_pos h]
      exact .present (Value.isTruthy_iff_not_isMissing.mp h)
    · rw [hmissing, if_neg h]
      exact .missing (Value.isTruthy_eq_false_iff.mp (Bool.eq_false_iff.mpr h))

/-- A text that is not empty is recorded. -/
theorem recorded_text {s : String} (h : s ≠ "") : Recorded (.text s) (.text s) :=
  .present fun hmissing => by
    cases hmissing
    exact h rfl

/-- The cells by which a catalogue says yes: one of the words for it, in capitals or not and with
    blanks around it or not, or a value that is there and is no text. -/
inductive Affirms : Value → Prop
  | word {text word : String} (hword : Stripped Text.isBlank text.toList word.toList)
      (h : Text.uppercase word ∈ ["YES", "Y", "TRUE", "1", "UNIQUE"]) : Affirms (.text text)
  | present {v : Value} (htext : ∀ s, v ≠ .text s) (h : ¬v.IsMissing) : Affirms v

/-- A cell is true when it says yes. -/
theorem flag_eq_true_iff {v : Value} : flag v = true ↔ Affirms v := by
  have hpresent (htext : ∀ s, v ≠ .text s) : flag v = v.isTruthy := by
    cases v with
    | text s => exact absurd rfl (htext s)
    | _ => rfl
  constructor
  · intro h
    by_cases htext : ∀ s, v ≠ .text s
    · exact .present htext (Value.isTruthy_iff_not_isMissing.mp (hpresent htext ▸ h))
    · obtain ⟨s, rfl⟩ := not_forall_not.mp htext
      have hword : Stripped Text.isBlank s.toList (Text.trimmed s).toList :=
        Text.trimmed_eq_iff.mp rfl
      rw [flag, trueWords, List.contains_iff_mem] at h
      exact .word hword h
  · rintro (⟨hword, h⟩ | ⟨htext, h⟩)
    · rw [flag, Text.trimmed_eq_iff.mpr hword, trueWords, List.contains_iff_mem]
      exact h
    · rw [hpresent htext]
      exact Value.isTruthy_iff_not_isMissing.mpr h

end Catalog

end SqlCatalog
