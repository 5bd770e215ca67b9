import SqlCatalog.Catalog.Display
import SqlCatalog.Proofs.Catalog.Grouping

/-!
# Rows as Results Show Them

What a caller gets of a table has gone through two steps. A cell is made presentable, and the
cells of a row are put under the names of their columns. Pages and totals say nothing about
either, and a result with the right number of rows could still show the wrong ones.

Bytes are where a cell can be lost. They are a text when they are the encoding of one, which is
told here by writing the text and not by reading the bytes, and otherwise only their number is
left. Columns are where a row can be: a record has each name once, so of the cells of one name
only the last is kept, at the place of the first.

## Main definitions

* `Catalog.Shows`: What is shown for a value.

## Theorems

* `Catalog.display_eq_iff`: A value is shown in one way.
* `Catalog.display_display`: What is shown is presentable.
* `Catalog.lookup_displayRow`: A field has the last cell of its name.
* `Catalog.names_displayRow`: The fields are the columns, each where it first stands.
-/

namespace SqlCatalog

namespace Catalog

/-! ### Cells -/

/-- What is shown for a value. Up to a thousand bytes are the text that they encode, and other
    bytes are told by their number. Calendar values are written to the second or to the day. -/
inductive Shows : Value → Value → Prop
  | encoded (form : BytesForm) {data : List UInt8} {text : String} (hfew : data.length ≤ 1000)
      (htext : text.toUTF8.data.toList = data) : Shows (.bytes form data) (.text text)
  | counted (form : BytesForm) {data : List UInt8}
      (h : 1000 < data.length ∨ ∀ text : String, text.toUTF8.data.toList ≠ data) :
      Shows (.bytes form data) (.text s!"<binary data: {data.length} bytes>")
  | moment (t : Timestamp) : Shows (.timestamp t) (.text t.toSecond)
  | day (d : Date) : Shows (.date d) (.text d.iso)
  | same {v : Value} (hbytes : ∀ form data, v ≠ .bytes form data)
      (hmoment : ∀ t, v ≠ .timestamp t) (hday : ∀ d, v ≠ .date d) : Shows v v

/-- A text is read of the bytes that encode it, and of no others. -/
theorem fromUTF8?_eq_some_iff {data : List UInt8} {text : String} :
    String.fromUTF8? ⟨data.toArray⟩ = some text ↔ text.toUTF8.data.toList = data := by
  unfold String.fromUTF8?
  constructor
  · intro h
    split at h
    · rw [← Option.some.inj h]
      rfl
    · exact nomatch h
  · rintro rfl
    exact dif_pos text.isValidUTF8

/-- Bytes are shown as the text that they encode if they are few, and by their number if not. -/
theorem bytesText_eq_iff {form : BytesForm} {data : List UInt8} {text : String} :
    bytesText data = text ↔ Shows (.bytes form data) (.text text) := by
  unfold bytesText
  constructor
  · rintro rfl
    by_cases hmany : data.length > maxShownBytes
    · rw [if_pos hmany]
      exact .counted form (.inl hmany)
    · rw [if_neg hmany]
      rcases hread : String.fromUTF8? ⟨data.toArray⟩ with _ | text
      · -- Were the bytes the encoding of a text, it would have been read.
        refine .counted form (.inr fun text htext => ?_)
        rw [fromUTF8?_eq_some_iff.mpr htext] at hread
        exact nomatch hread
      · exact .encoded form (Nat.le_of_not_lt hmany) (fromUTF8?_eq_some_iff.mp hread)
  · intro h
    cases h with
    | encoded _ hfew htext =>
        have hshown : ¬data.length > maxShownBytes := Nat.not_lt.mpr hfew
        rw [if_neg hshown, fromUTF8?_eq_some_iff.mpr htext]
        rfl
    | counted _ h =>
        rcases h with hmany | hnone
        · exact if_pos hmany
        · have hread : String.fromUTF8? ⟨data.toArray⟩ = none :=
            Option.eq_none_iff_forall_ne_some.mpr fun text htext =>
              hnone text (fromUTF8?_eq_some_iff.mp htext)
          rw [hread]
          exact ite_self _

/-- A value is shown in one way. -/
theorem display_eq_iff {v w : Value} : display v = w ↔ Shows v w := by
  constructor
  · rintro rfl
    cases v with
    | bytes form data => exact bytesText_eq_iff.mp rfl
    | timestamp t => exact .moment t
    | date d => exact .day d
    | _ => exact .same nofun nofun nofun
  · intro h
    cases h with
    | encoded form hfew htext =>
        exact congrArg Value.text (bytesText_eq_iff.mpr (.encoded form hfew htext))
    | counted form hnumber =>
        exact congrArg Value.text (bytesText_eq_iff.mpr (.counted form hnumber))
    | moment => rfl
    | day => rfl
    | same hbytes hmoment hday =>
        cases v with
        | bytes form data => exact absurd rfl (hbytes form data)
        | timestamp t => exact absurd rfl (hmoment t)
        | date d => exact absurd rfl (hday d)
        | _ => rfl

/-- What is shown is presentable: it is shown as it is. -/
theorem display_display (v : Value) : display (display v) = display v := by
  cases v with
  | _ => rfl

/-! ### Rows -/

/-- Where a field is replaced it has the new value, and the others keep theirs. -/
theorem lookup_replaced (fields : List (String × Value)) {name : String} (v : Value)
    (hthere : name ∈ fields.map Prod.fst) (key : String) :
    (fields.map fun f => if f.1 == name then (name, v) else f).lookup key =
      if key = name then some v else fields.lookup key := by
  simp only [beq_iff_eq]
  by_cases hkey : key = name
  · subst hkey
    rw [if_pos rfl]
    -- The first field of the name is found, and from there on nothing is looked at.
    induction fields with
    | nil => exact absurd hthere List.not_mem_nil
    | cons f rest ih =>
        obtain ⟨other, w⟩ := f
        by_cases hname : other = key
        · simp [hname]
        · have hrest : key ∈ rest.map Prod.fst := by simpa [Ne.symm hname] using hthere
          have hskip : (key == other) = false := beq_eq_false_iff_ne.mpr (Ne.symm hname)
          rw [List.map_cons, if_neg hname, List.lookup_cons, hskip, ih hrest]
  · rw [if_neg hkey]
    -- Whether the name is there does not matter to another key.
    clear hthere
    induction fields with
    | nil => rfl
    | cons f rest ih =>
        obtain ⟨other, w⟩ := f
        by_cases hname : other = name
        · have hskip : (key == name) = false := beq_eq_false_iff_ne.mpr hkey
          rw [List.map_cons, if_pos hname, List.lookup_cons, List.lookup_cons, hname, hskip, ih]
        · rw [List.map_cons, if_neg hname, List.lookup_cons, List.lookup_cons, ih]

/-- Whether a field is there is told by the names. -/
theorem any_eq_decide_mem (fields : List (String × Value)) (name : String) :
    fields.any (·.1 == name) = decide (name ∈ fields.map Prod.fst) := by
  rw [Bool.eq_iff_iff]
  simp

/-- A field that is put in has its new value, and the others keep theirs. -/
theorem lookup_putField (fields : List (String × Value)) (name key : String) (v : Value) :
    (putField fields name v).lookup key = if key = name then some v else fields.lookup key := by
  unfold putField
  rw [any_eq_decide_mem]
  by_cases hthere : name ∈ fields.map Prod.fst
  · rw [if_pos (decide_eq_true hthere), lookup_replaced fields v hthere]
  · have hnew : fields.lookup name = none := by
      rw [List.lookup_eq_none_iff]
      rintro ⟨other, w⟩ hmem
      rw [bne_iff_ne]
      rintro rfl
      exact hthere (List.mem_map_of_mem hmem)
    rw [if_neg (by simpa using hthere), List.lookup_append]
    by_cases hkey : key = name
    · rw [hkey, hnew, if_pos rfl]
      simp
    · rw [if_neg hkey]
      simp [List.lookup_cons, beq_eq_false_iff_ne.mpr hkey]

/-- A field that is put in is there, behind the others when it is new. -/
theorem names_putField (fields : List (String × Value)) (name : String) (v : Value) :
    (putField fields name v).map Prod.fst =
      if name ∈ fields.map Prod.fst then fields.map Prod.fst
      else fields.map Prod.fst ++ [name] := by
  unfold putField
  rw [any_eq_decide_mem]
  by_cases hthere : name ∈ fields.map Prod.fst
  · rw [if_pos (decide_eq_true hthere), if_pos hthere, List.map_map]
    refine List.map_congr_left fun f _ => ?_
    by_cases hname : f.1 = name
    · simp [hname]
    · simp [hname]
  · rw [if_neg (by simpa using hthere), if_neg hthere, List.map_append]
    rfl

/-- A field has the last cell of its name, as it is shown, by induction from the end. -/
theorem lookup_displayRow (columns : List String) (row : List Value) (name : String) :
    (displayRow columns row).lookup name =
      ((columns.zip row).reverse.lookup name).map display := by
  unfold displayRow
  induction columns.zip row using List.reverseRecOn with
  | nil => rfl
  | append_singleton cells cell ih =>
      obtain ⟨key, v⟩ := cell
      rw [List.foldl_append, List.reverse_append]
      simp only [List.foldl_cons, List.foldl_nil, lookup_putField, ih]
      by_cases hname : name = key
      · simp [hname]
      · simp [hname, List.lookup_cons, beq_eq_false_iff_ne.mpr hname]

/-- The fields are the columns that have a cell, each where it first stands. -/
theorem names_displayRow (columns : List String) (row : List Value) :
    (displayRow columns row).map Prod.fst = ((columns.zip row).map Prod.fst).eraseDups := by
  unfold displayRow
  induction columns.zip row using List.reverseRecOn with
  | nil => simp
  | append_singleton cells cell ih =>
      rw [List.foldl_append, List.foldl_cons, List.foldl_nil, names_putField, ih, List.map_append,
        List.map_singleton, eraseDups_concat]
      simp only [List.mem_eraseDups]

end Catalog

end SqlCatalog
