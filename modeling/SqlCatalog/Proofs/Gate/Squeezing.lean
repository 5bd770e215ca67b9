import Mathlib.Data.List.TakeWhile
import SqlCatalog.Gate.Verdict
import SqlCatalog.Proofs.Gate.Emptying

/-!
# Steps of the Normal Form

Collapsing blanks, trimming, tightening and upper case, each looked at on its own.
All of them split a text at its quote marks, so the view of a query is the normal
form of the text whose runs were emptied first.

A semicolon splits a text too, but tightening looks one character ahead and drops
the blank before it. What stands before a semicolon is therefore not squeezed on its
own, and `upper_squeeze_append_semicolon` leaves open what becomes of it.

## Main definitions

* `squeeze`: The steps of the normal form before letter case.

## Theorems

* `literalFree_upper_squeeze`: The view is the normal form of the emptied text.
* `upper_squeeze_append_semicolon`: A semicolon stays, and so does what follows it.
* `blank_or_semicolon_of_normal`: A normal form without an inner semicolon comes from
  a text in which only blanks and semicolons follow one.
-/

namespace SqlCatalog

namespace Gate

/-- The steps of the normal form before letter case. -/
def squeeze (s : List Char) : List Char :=
  tighten (Text.trim (collapse s))

theorem normalize_eq (s : List Char) :
    normalize s = Text.upper (squeeze (withoutComments s)) :=
  rfl

/-! ### Collapsing -/

theorem collapseFrom_append (b : Bool) {m : Char} (hm : Text.isBlank m = false)
    (s t : List Char) :
    collapseFrom b (s ++ m :: t) = collapseFrom b s ++ m :: collapseFrom false t := by
  induction s generalizing b with
  | nil => simp [collapseFrom, hm]
  | cons c rest ih =>
      simp only [List.cons_append, collapseFrom]
      split
      · split
        · exact ih true
        · rw [ih true, List.cons_append]
      · rw [ih false, List.cons_append]

/-- Collapsing brings forth nothing but blanks, and loses nothing else. -/
theorem mem_collapseFrom_iff (b : Bool) {m : Char} (hm : Text.isBlank m = false)
    (s : List Char) : m ∈ collapseFrom b s ↔ m ∈ s := by
  have hspace : m ≠ ' ' := by
    rintro rfl
    exact absurd hm (by decide)
  induction s generalizing b with
  | nil => simp [collapseFrom]
  | cons c rest ih =>
      simp only [collapseFrom]
      split
      · rename_i hc
        have hne : m ≠ c := by
          rintro rfl
          rw [hm] at hc
          exact absurd hc (by decide)
        split
        · simp only [ih, List.mem_cons, or_iff_right hne]
        · simp only [ih, List.mem_cons, or_iff_right hspace, or_iff_right hne]
      · simp only [ih, List.mem_cons]

theorem collapse_splits (b : Bool) :
    SplitsAtMarks (collapseFrom b) (collapseFrom b) (collapseFrom false) where
  append _ s t hm := collapseFrom_append b (isBlank_of_isQuoteMark hm) s t
  mem_of_mem _ s hm := (mem_collapseFrom_iff b (isBlank_of_isQuoteMark hm) s).mp
  mem_of_mem_before _ s hm := (mem_collapseFrom_iff b (isBlank_of_isQuoteMark hm) s).mp

/-! ### Trimming -/

theorem dropBlanks_append {m : Char} (hm : Text.isBlank m = false) (s t : List Char) :
    (s ++ m :: t).dropWhile Text.isBlank = s.dropWhile Text.isBlank ++ m :: t := by
  rw [List.dropWhile_append]
  split
  · rename_i hnil
    rw [List.isEmpty_iff.mp hnil, List.dropWhile_cons, if_neg (by rw [hm]; decide),
      List.nil_append]
  · rfl

theorem mem_dropBlanks_iff {m : Char} (hm : Text.isBlank m = false) (s : List Char) :
    m ∈ s.dropWhile Text.isBlank ↔ m ∈ s := by
  induction s with
  | nil => rfl
  | cons c rest ih =>
      rw [List.dropWhile_cons]
      split
      · rename_i hc
        have hne : m ≠ c := by
          rintro rfl
          rw [hm] at hc
          exact absurd hc (by decide)
        rw [ih, List.mem_cons, or_iff_right hne]
      · rfl

theorem dropBlanks_splits :
    SplitsAtMarks (List.dropWhile Text.isBlank) (List.dropWhile Text.isBlank) id where
  append _ s t hm := dropBlanks_append (isBlank_of_isQuoteMark hm) s t
  mem_of_mem _ s hm := (mem_dropBlanks_iff (isBlank_of_isQuoteMark hm) s).mp
  mem_of_mem_before _ s hm := (mem_dropBlanks_iff (isBlank_of_isQuoteMark hm) s).mp

theorem id_splits : SplitsAtMarks id id id where
  append _ _ _ _ := rfl
  mem_of_mem _ _ _ h := h
  mem_of_mem_before _ _ _ h := h

/-- The text without the blanks at its end is the beginning of it. -/
theorem isPrefix_trimEnd (s : List Char) : Text.trimEnd s <+: s := by
  have hsuffix := List.dropWhile_suffix (l := s.reverse) Text.isBlank
  rwa [← List.reverse_prefix, List.reverse_reverse] at hsuffix

theorem trimEnd_cons (c : Char) (s : List Char) :
    Text.trimEnd (c :: s) =
      if Text.trimEnd s = [] ∧ Text.isBlank c = true then [] else c :: Text.trimEnd s := by
  by_cases hs : Text.trimEnd s = []
  · have hs' : s.reverse.dropWhile Text.isBlank = [] := by
      rwa [Text.trimEnd, List.reverse_eq_nil_iff] at hs
    by_cases hc : Text.isBlank c = true
    · rw [if_pos ⟨hs, hc⟩, Text.trimEnd, List.reverse_cons, List.dropWhile_append, hs']
      simp [hc]
    · rw [if_neg (fun h => hc h.2), hs, Text.trimEnd, List.reverse_cons,
        List.dropWhile_append, hs']
      simp [hc]
  · rw [if_neg (fun h => hs h.1)]
    exact Text.trimEnd_append (s := [c]) hs

theorem trimEnd_append_mark {m : Char} (hm : Text.isBlank m = false) (s t : List Char) :
    Text.trimEnd (s ++ m :: t) = s ++ m :: Text.trimEnd t := by
  have hcons : Text.trimEnd (m :: t) = m :: Text.trimEnd t := by
    rw [trimEnd_cons, if_neg (by rw [hm]; simp)]
  rw [Text.trimEnd_append (by rw [hcons]; exact List.cons_ne_nil _ _), hcons]

theorem mem_trimEnd_iff {m : Char} (hm : Text.isBlank m = false) (s : List Char) :
    m ∈ Text.trimEnd s ↔ m ∈ s := by
  rw [Text.trimEnd, List.mem_reverse, mem_dropBlanks_iff hm, List.mem_reverse]

theorem trimEnd_splits : SplitsAtMarks Text.trimEnd id Text.trimEnd where
  append _ s t hm := trimEnd_append_mark (isBlank_of_isQuoteMark hm) s t
  mem_of_mem _ s hm := (mem_trimEnd_iff (isBlank_of_isQuoteMark hm) s).mp
  mem_of_mem_before _ _ _ h := h

/-! ### Tightening -/

theorem tightenFrom_append (b : Bool) {m : Char} (hspace : m ≠ ' ') (hm : isTight m = false)
    (s t : List Char) :
    tightenFrom b (s ++ m :: t) = tightenFrom b s ++ m :: tightenFrom false t := by
  induction s generalizing b with
  | nil => simp [tightenFrom, hspace, hm]
  | cons c rest ih =>
      -- The character behind `c` is the same on both sides, or a mark in place of none.
      have hhead : (rest ++ m :: t).head?.any isTight = rest.head?.any isTight := by
        cases rest with
        | nil => simpa using hm
        | cons d more => rfl
      simp only [List.cons_append, tightenFrom, hhead]
      split
      · exact ih b
      · rw [ih (isTight c), List.cons_append]

/-- Tightening loses nothing but plain spaces. -/
theorem mem_tightenFrom_iff (b : Bool) {m : Char} (hm : m ≠ ' ') (s : List Char) :
    m ∈ tightenFrom b s ↔ m ∈ s := by
  induction s generalizing b with
  | nil => simp [tightenFrom]
  | cons c rest ih =>
      simp only [tightenFrom]
      split
      · rename_i hc
        simp only [Bool.and_eq_true, decide_eq_true_eq] at hc
        rw [ih b, hc.1, List.mem_cons, or_iff_right hm]
      · rw [List.mem_cons, ih, List.mem_cons]

theorem ne_space_of_isQuoteMark {m : Char} (hm : isQuoteMark m = true) : m ≠ ' ' := by
  rintro rfl
  exact absurd hm (by decide)

theorem tighten_splits (b : Bool) :
    SplitsAtMarks (tightenFrom b) (tightenFrom b) (tightenFrom false) where
  append _ s t hm :=
    tightenFrom_append b (ne_space_of_isQuoteMark hm) (isTight_of_isQuoteMark hm) s t
  mem_of_mem _ s hm := (mem_tightenFrom_iff b (ne_space_of_isQuoteMark hm) s).mp
  mem_of_mem_before _ s hm := (mem_tightenFrom_iff b (ne_space_of_isQuoteMark hm) s).mp

/-! ### Upper case -/

theorem upper_cons (c : Char) (s : List Char) :
    Text.upper (c :: s) = Text.upperChar c ++ Text.upper s :=
  rfl

theorem upper_splits : SplitsAtMarks Text.upper Text.upper Text.upper where
  append m s t hm := by
    rw [Text.upper_append, upper_cons, upperChar_of_structural (isStructural_of_isQuoteMark hm)]
    rfl
  mem_of_mem _ s hm := (mem_upper_iff (isStructural_of_isQuoteMark hm) s).mp
  mem_of_mem_before _ s hm := (mem_upper_iff (isStructural_of_isQuoteMark hm) s).mp

/-! ### The view -/

theorem emptyRuns_squeeze (kind : QuoteKind) (s : List Char) :
    emptyRuns kind (squeeze s) = squeeze (emptyRuns kind s) := by
  have hcollapse := (emptied_emptyRuns kind s).map (collapse_splits false)
    (collapse_splits false) rfl
  have hdrop := hcollapse.map dropBlanks_splits id_splits rfl
  have htrim := hdrop.map trimEnd_splits trimEnd_splits rfl
  exact (htrim.map (tighten_splits false) (tighten_splits false) rfl).eq

theorem emptyRuns_upper (kind : QuoteKind) (s : List Char) :
    emptyRuns kind (Text.upper s) = Text.upper (emptyRuns kind s) :=
  ((emptied_emptyRuns kind s).map upper_splits upper_splits rfl).eq

/-- The view of a query is the normal form of the text with its runs emptied. -/
theorem literalFree_upper_squeeze (s : List Char) :
    literalFree (Text.upper (squeeze s)) = Text.upper (squeeze (literalFree s)) := by
  simp only [literalFree, emptyRuns_upper, emptyRuns_squeeze]

/-! ### Semicolons -/

/-- A character that is no plain space splits a text that is tightened. What becomes of
    the text before it depends on whether it is tight. -/
theorem tightenFrom_append_exists (b : Bool) {m : Char} (hm : m ≠ ' ') (s t : List Char) :
    ∃ u, tightenFrom b (s ++ m :: t) = u ++ m :: tightenFrom (isTight m) t := by
  induction s generalizing b with
  | nil =>
      refine ⟨[], ?_⟩
      simp [tightenFrom, hm]
  | cons c rest ih =>
      simp only [List.cons_append, tightenFrom]
      split
      · exact ih b
      · rcases ih (isTight c) with ⟨u, hu⟩
        exact ⟨c :: u, by rw [hu, List.cons_append]⟩

theorem upper_squeeze_append_semicolon (s t : List Char) :
    ∃ u, Text.upper (squeeze (s ++ ';' :: t)) =
      u ++ ';' :: Text.upper (tightenFrom true (Text.trimEnd (collapseFrom false t))) := by
  have hblank : Text.isBlank ';' = false := by decide
  have hupper : Text.upperChar ';' = [';'] := upperChar_of_structural (by decide)
  rw [squeeze, collapse, collapseFrom_append false hblank, Text.trim,
    dropBlanks_append hblank, trimEnd_append_mark hblank]
  rcases tightenFrom_append_exists false (m := ';') (by decide)
    ((collapseFrom false s).dropWhile Text.isBlank) (Text.trimEnd (collapseFrom false t))
    with ⟨u, hu⟩
  refine ⟨Text.upper u, ?_⟩
  rw [tighten, hu, Text.upper_append, upper_cons, hupper]
  rfl

theorem eq_semicolon_of_withoutLastSemicolons {s t : List Char}
    (h : ';' ∉ withoutLastSemicolons (s ++ ';' :: t)) : ∀ c ∈ t, c = ';' := by
  by_cases hnil : t.reverse.dropWhile (· == ';') = []
  · rw [List.dropWhile_eq_nil_iff] at hnil
    intro c hc
    simpa using hnil c (List.mem_reverse.mpr hc)
  · refine absurd ?_ h
    rw [withoutLastSemicolons, List.reverse_append, List.reverse_cons, List.append_assoc,
      List.dropWhile_append, if_neg (by simpa using hnil)]
    simp

/-- A normal form without an inner semicolon comes from a text in which nothing but
    blanks and semicolons follows a semicolon. -/
theorem blank_or_semicolon_of_normal {s t : List Char}
    (h : ';' ∉ withoutLastSemicolons (Text.upper (squeeze (s ++ ';' :: t)))) :
    ∀ c ∈ t, Text.isBlank c = true ∨ c = ';' := by
  rcases upper_squeeze_append_semicolon s t with ⟨u, hu⟩
  rw [hu] at h
  have hall := eq_semicolon_of_withoutLastSemicolons h
  intro c hc
  by_cases hblank : Text.isBlank c = true
  · exact Or.inl hblank
  · right
    rw [Bool.not_eq_true] at hblank
    have hspace : c ≠ ' ' := by
      rintro rfl
      exact absurd hblank (by decide)
    have hmem : c ∈ tightenFrom true (Text.trimEnd (collapseFrom false t)) := by
      rwa [mem_tightenFrom_iff true hspace, mem_trimEnd_iff hblank,
        mem_collapseFrom_iff false hblank]
    -- Whatever `c` becomes in upper case is a semicolon, so `c` was one.
    rcases List.exists_mem_of_ne_nil _ (upperChar_ne_nil c) with ⟨d, hd⟩
    have hsemi : d = ';' := hall d (List.mem_flatMap.mpr ⟨c, hmem, hd⟩)
    by_cases hs : isStructural c = true
    · rw [upperChar_of_structural hs, List.mem_singleton] at hd
      rw [← hd, hsemi]
    · have hfree := upperChar_of_not_structural (by simpa using hs) hd
      rw [hsemi] at hfree
      exact absurd hfree (by decide)

end Gate

end SqlCatalog
