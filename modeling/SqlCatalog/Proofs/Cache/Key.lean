import Mathlib.Data.List.Basic
import SqlCatalog.ColumnCache
import SqlCatalog.Identifier
import SqlCatalog.Proofs.Text.LetterCase

/-!
# Keys of Column Lists

What the key of a cached list tells about the table. A key is the names of the driver,
the schema and the table with colons between them, the last two in lower case. Names
have no colon, so a key falls apart again, but into lower case only: two tables whose
names differ in the case of their letters have one key.

Whoever looks a key up need not have checked the names. The names of the entry that is
found were checked when it was loaded, and that is enough: its key has no colon besides
the two, so the key that was looked up has none either.

## Main definitions

* `Identifier.IsSchema`: The names that a schema resolves to.

## Theorems

* `colon_mem_of_mem_lower`: Lower case brings no colon into a name.
* `append_mark_inj`: A text falls apart at the first mark in one way only.
* `ColumnCache.key_inj`: Equal keys come from names that are equal in lower case.
* `uppercase_eq_of_lowercase_eq`: Such names are equal in upper case as well.
-/

namespace SqlCatalog

namespace Identifier

/-- A schema is a name, or nothing where names are looked up without one. -/
def IsSchema (s : String) : Prop :=
  s = "" ∨ isName s.toList = true

instance (s : String) : Decidable (IsSchema s) :=
  inferInstanceAs (Decidable (_ ∨ _))

theorem ascii_of_isNameChar {c : Char} (h : isNameChar c = true) : c.toNat < 0x80 := by
  simp only [isNameChar, Bool.or_eq_true, beq_iff_eq] at h
  rcases h with (((hplain | rfl) | rfl) | rfl) | rfl
  · delta Char.isAlphanum Char.isAlpha Char.isUpper Char.isLower Char.isDigit at hplain
    simp only [Bool.or_eq_true, Bool.and_eq_true, decide_eq_true_eq, UInt32.le_iff_toNat_le,
      ge_iff_le] at hplain
    have hval : c.val.toNat = c.toNat := rfl
    have hz : 'Z'.val.toNat = 90 ∧ 'z'.val.toNat = 122 ∧ '9'.val.toNat = 57 := ⟨rfl, rfl, rfl⟩
    rw [hval] at hplain
    omega
  all_goals decide

/-- Names are in ASCII, so a table of ASCII is all there is to look at. -/
theorem of_isNameChar {P : Char → Prop}
    (h : ∀ n < 0x80, isNameChar (Char.ofNat n) = true → P (Char.ofNat n)) {c : Char}
    (hc : isNameChar c = true) : P c :=
  of_ascii (P := fun c => isNameChar c = true → P c) h (ascii_of_isNameChar hc) hc

/-- The capital of a character of a name can be told from its small letter. -/
theorem toUpper_toLower_of_isNameChar {c : Char} (h : isNameChar c = true) :
    c.toLower.toUpper = c.toUpper :=
  of_isNameChar (P := fun c => c.toLower.toUpper = c.toUpper) (by decide +kernel) h

theorem isNameChar_toUpper {c : Char} (h : isNameChar c = true) :
    isNameChar c.toUpper = true :=
  of_isNameChar (P := fun c => isNameChar c.toUpper = true) (by decide +kernel) h

/-- A character of a name is told by its small letter. -/
theorem isNameChar_toLower {c : Char} (h : c.toNat < 0x80) :
    isNameChar c.toLower = isNameChar c :=
  of_ascii (P := fun c => isNameChar c.toLower = isNameChar c) (by decide +kernel) h

theorem isNameChar_of_isName {s : List Char} (h : isName s = true) :
    ∀ c ∈ s, isNameChar c = true := by
  simp only [isName, Bool.and_eq_true] at h
  exact List.all_eq_true.mp h.2

/-- The characters of a schema are those of names. -/
theorem IsSchema.isNameChar {s : String} (h : IsSchema s) :
    ∀ c ∈ s.toList, isNameChar c = true := by
  rcases h with rfl | h
  · exact fun c hc => absurd hc (by simp)
  · exact isNameChar_of_isName h

/-- Only a name passes for one. -/
theorem isName_of_require {v : Value} {kind y : String} (h : require v kind = .ok y) :
    v = .text y ∧ isName y.toList = true := by
  unfold require at h
  split at h
  · split at h
    · rename_i s hs
      rw [Except.ok.inj h] at hs ⊢
      exact ⟨rfl, hs⟩
    · exact absurd h (by simp [refuse])
  · exact absurd h (by simp [refuse])

theorem require_of_isName {x : String} (h : isName x.toList = true) (kind : String) :
    require (.text x) kind = .ok x := by
  rw [require, if_pos h]

/-- A schema that a caller names, or the default, resolves to a schema. -/
theorem isSchema_of_resolveSchema {schema : Value} {default r : String}
    (h : resolveSchema schema default = .ok r) : IsSchema r := by
  unfold resolveSchema at h
  generalize (if schema.isTruthy then schema else Value.text default) = resolved at h
  simp only [] at h
  split at h
  · exact Or.inr (isName_of_require h).2
  · exact Or.inl (Except.ok.inj h).symm

end Identifier

/-! ### Letter case of names -/

theorem lowerFrom_ascii {s : List Char} (h : ∀ c ∈ s, c.toNat < 0x80) (before : List Char) :
    Text.lowerFrom before s = s.map Char.toLower := by
  induction s generalizing before with
  | nil => rfl
  | cons c rest ih =>
      have hc : c.toNat < 0x80 := h c List.mem_cons_self
      have hsigma : c ≠ 'Σ' := by
        rintro rfl
        exact absurd hc (by decide)
      rw [Text.lowerFrom, ih (fun d hd => h d (List.mem_cons_of_mem c hd)), if_neg hsigma,
        Text.lowerChar, if_pos hc]
      rfl

theorem lower_of_isNameChar {s : List Char} (h : ∀ c ∈ s, Identifier.isNameChar c = true) :
    Text.lower s = s.map Char.toLower :=
  lowerFrom_ascii (fun c hc => Identifier.ascii_of_isNameChar (h c hc)) []

theorem upper_of_isNameChar {s : List Char} (h : ∀ c ∈ s, Identifier.isNameChar c = true) :
    Text.upper s = s.map Char.toUpper := by
  induction s with
  | nil => rfl
  | cons c rest ih =>
      have hc := Identifier.ascii_of_isNameChar (h c List.mem_cons_self)
      have hrest := ih fun d hd => h d (List.mem_cons_of_mem c hd)
      rw [Text.upper] at hrest ⊢
      rw [List.flatMap_cons, hrest, Text.upperChar_ascii hc]
      rfl

/-- Lower case brings no colon into a text, whichever letters it is made of. -/
theorem colon_mem_of_mem_lower {s : List Char} (h : ':' ∈ Text.lower s) : ':' ∈ s := by
  suffices hfrom : ∀ before, ':' ∈ Text.lowerFrom before s → ':' ∈ s from hfrom [] h
  clear h
  induction s with
  | nil => exact fun _ h => absurd h List.not_mem_nil
  | cons c rest ih =>
      intro before h
      rw [Text.lowerFrom, List.mem_append] at h
      rcases h with hhead | htail
      · by_cases hc : c = ':'
        · rw [hc]
          exact List.mem_cons_self
        · split at hhead
          · -- Both forms of the sigma are letters.
            rw [List.mem_singleton] at hhead
            split at hhead <;> exact absurd hhead (by decide)
          · exact absurd (Text.eq_of_mem_lowerChar (by decide) hhead).symm hc
      · exact List.mem_cons_of_mem c (ih (c :: before) htail)

theorem colon_not_mem_lower {s : List Char} (h : ∀ c ∈ s, Identifier.isNameChar c = true) :
    ':' ∉ Text.lower s := by
  intro hmem
  exact absurd (h ':' (colon_mem_of_mem_lower hmem)) (by decide)

/-- The capitals of a name can be told from its small letters. -/
theorem upper_of_lower {s : List Char} (h : ∀ c ∈ s, Identifier.isNameChar c = true) :
    (Text.lower s).map Char.toUpper = Text.upper s := by
  rw [lower_of_isNameChar h, upper_of_isNameChar h, List.map_map]
  exact List.map_congr_left fun c hc => Identifier.toUpper_toLower_of_isNameChar (h c hc)

/-- Names that are equal in lower case are equal in upper case. -/
theorem uppercase_eq_of_lowercase_eq {s t : String}
    (hs : ∀ c ∈ s.toList, Identifier.isNameChar c = true)
    (ht : ∀ c ∈ t.toList, Identifier.isNameChar c = true)
    (h : Text.lowercase s = Text.lowercase t) : Text.uppercase s = Text.uppercase t := by
  have hlower : Text.lower s.toList = Text.lower t.toList := String.ofList_injective h
  rw [Text.uppercase, Text.uppercase, ← upper_of_lower hs, ← upper_of_lower ht, hlower]

/-! ### Keys -/

/-- A text falls apart at the first of its marks in one way only. -/
theorem append_mark_inj {m : Char} {s t u v : List Char} (hs : m ∉ s) (hu : m ∉ u)
    (h : s ++ m :: t = u ++ m :: v) : s = u ∧ t = v := by
  induction s generalizing u with
  | nil =>
      cases u with
      | nil => exact ⟨rfl, (List.cons.inj h).2⟩
      | cons d more => exact absurd ((List.cons.inj h).1 ▸ List.mem_cons_self) hu
  | cons c rest ih =>
      rw [List.mem_cons, not_or] at hs
      cases u with
      | nil => exact absurd (List.cons.inj h).1.symm hs.1
      | cons d more =>
          rw [List.mem_cons, not_or] at hu
          obtain ⟨hhead, htail⟩ := List.cons.inj h
          obtain ⟨hmore, hv⟩ := ih hs.2 hu.2 htail
          exact ⟨by rw [hhead, hmore], hv⟩

/-- Equal keys come from names that are equal in lower case, when those of one of them
    are names. -/
theorem ColumnCache.key_inj {driver a x b y : String} (ha : Identifier.IsSchema a)
    (hx : Identifier.isName x.toList = true)
    (h : ColumnCache.key driver a x = ColumnCache.key driver b y) :
    Text.lowercase a = Text.lowercase b ∧ Text.lowercase x = Text.lowercase y := by
  have hlist := congrArg String.toList h
  simp only [ColumnCache.key, Text.lowercase, String.toList_append, String.toList_ofList,
    List.append_assoc, List.append_cancel_left_eq] at hlist
  have hcolon : ":".toList = [':'] := rfl
  rw [hcolon] at hlist
  -- One of the texts has no colon but the one in the middle.
  have hinj := (List.append_cons_inj_of_notMem (colon_not_mem_lower ha.isNameChar)
    (colon_not_mem_lower (Identifier.isNameChar_of_isName hx))).mp hlist
  rw [Text.lowercase, Text.lowercase, Text.lowercase, Text.lowercase, hinj.1, hinj.2.2]
  exact ⟨rfl, rfl⟩

end SqlCatalog
