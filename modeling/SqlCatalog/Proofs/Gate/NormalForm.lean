import SqlCatalog.Proofs.Gate.Uncommented

/-!
# The Normal Form

What the normal form of a query text looks like. The gate looks for phrases of several words
and for calls of functions in it, so it relies on there being one way to write them: one plain
space between words, none before a parenthesis, capitals only, and no comment in between.

`IsNormal` says this of a text without asking where it comes from. Every normal form has the
property, and a text that has it is its own normal form, so taking the normal form twice is
taking it once. The spacing is a relation of neighbours, `MayMeet`. Collapsing the blanks leaves
no two spaces side by side, and that is what tightening needs: the character behind a space
that it drops is none itself, so nothing more has to go.

## Main definitions

* `MayMeet`: Two characters that may stand side by side in a normal form.
* `IsNormal`: A text in normal form.

## Theorems

* `isNormal_normalize`: The normal form of a text is one.
* `normalize_of_isNormal`: A text in normal form is its own.
* `normalize_settles`: Both together, for every text.
-/

namespace SqlCatalog

namespace Gate

/-- Two characters may stand side by side: a space stands neither beside another nor beside a
    tight mark. -/
def MayMeet (c d : Char) : Prop :=
  (c = ' ' → d ≠ ' ' ∧ isTight d = false) ∧ (isTight c = true → d ≠ ' ')

/-- A text in normal form: its blanks are plain spaces, none of them at an end, beside another
    or beside a tight mark, no comment is read in it, and its letters are capitals. -/
structure IsNormal (s : List Char) : Prop where
  plain : ∀ c ∈ s, Text.isBlank c = true → c = ' '
  first : s.head? ≠ some ' '
  last : s.getLast? ≠ some ' '
  spaced : s.IsChain MayMeet
  uncommented : ∀ source, .comment source ∉ lex s
  capital : Text.upper s = s

/-! ### Collapsing -/

/-- No two spaces stand side by side. -/
def SpacedOut (c d : Char) : Prop :=
  c = ' ' → d ≠ ' '

theorem plain_collapseFrom (b : Bool) (s : List Char) :
    ∀ c ∈ collapseFrom b s, Text.isBlank c = true → c = ' ' := by
  induction s generalizing b with
  | nil => exact fun c hc => absurd hc List.not_mem_nil
  | cons c rest ih =>
      rw [collapseFrom]
      split
      · split
        · exact ih true
        · exact List.forall_mem_cons.mpr ⟨fun _ => rfl, ih true⟩
      · rename_i hc
        exact List.forall_mem_cons.mpr ⟨fun h => absurd h hc, ih false⟩

/-- Behind a blank a collapsed text goes on without a space. -/
theorem spacedOut_collapseFrom (b : Bool) (s : List Char) :
    (collapseFrom b s).IsChain SpacedOut ∧ (b = true → ' ' ∉ (collapseFrom b s).head?) := by
  induction s generalizing b with
  | nil => exact ⟨.nil, fun _ h => absurd h (by simp [collapseFrom])⟩
  | cons c rest ih =>
      obtain ⟨hrest, hhead⟩ := ih true
      rw [collapseFrom]
      split
      · split
        · exact ⟨hrest, fun _ => hhead rfl⟩
        · refine ⟨hrest.cons fun d hd _ => ?_, fun hb => absurd hb ‹_›⟩
          rintro rfl
          exact hhead rfl hd
      · rename_i hc
        have hspace : c ≠ ' ' := by
          rintro rfl
          exact hc (by decide)
        exact ⟨(ih false).1.cons fun d _ h => absurd h hspace,
          fun _ h => hspace (Option.some.inj h)⟩

theorem collapseFrom_eq {b : Bool} {s : List Char}
    (hplain : ∀ c ∈ s, Text.isBlank c = true → c = ' ') (hspaced : s.IsChain SpacedOut)
    (hhead : b = true → ' ' ∉ s.head?) : collapseFrom b s = s := by
  induction s generalizing b with
  | nil => rfl
  | cons c rest ih =>
      obtain ⟨hc, hrest⟩ := List.forall_mem_cons.mp hplain
      rw [List.isChain_cons] at hspaced
      rw [collapseFrom]
      split
      · rename_i hblank
        obtain rfl := hc hblank
        rw [if_neg (fun hb => hhead hb rfl),
          ih hrest hspaced.2 fun _ hd => hspaced.1 ' ' hd rfl rfl]
      · rw [ih hrest hspaced.2 fun hb => absurd hb Bool.false_ne_true]

/-! ### Trimming -/

theorem dropBlanks_eq {s : List Char} (h : ∀ c ∈ s.head?, Text.isBlank c = false) :
    s.dropWhile Text.isBlank = s := by
  cases s with
  | nil => rfl
  | cons c rest => rw [List.dropWhile_cons, if_neg (by rw [h c rfl]; decide)]

theorem trim_eq {s : List Char} (hfirst : ∀ c ∈ s.head?, Text.isBlank c = false)
    (hlast : ∀ c ∈ s.getLast?, Text.isBlank c = false) : Text.trim s = s := by
  rw [Text.trim, dropBlanks_eq hfirst, Text.trimEnd, dropBlanks_eq, List.reverse_reverse]
  rwa [List.head?_reverse]

theorem isInfix_trim (s : List Char) : Text.trim s <:+: s :=
  (isPrefix_trimEnd _).isInfix.trans (List.dropWhile_suffix _).isInfix

theorem not_blank_of_head?_dropBlanks {s : List Char} {c : Char}
    (h : c ∈ (s.dropWhile Text.isBlank).head?) : Text.isBlank c = false := by
  have hhead := List.head?_dropWhile_not Text.isBlank s
  rwa [Option.mem_def.mp h] at hhead

theorem not_blank_of_head?_trim {s : List Char} {c : Char} (h : c ∈ (Text.trim s).head?) :
    Text.isBlank c = false := by
  obtain ⟨rest, hrest⟩ := isPrefix_trimEnd (s.dropWhile Text.isBlank)
  refine not_blank_of_head?_dropBlanks (s := s) ?_
  rw [Option.mem_def] at h ⊢
  rw [← hrest, List.head?_append, show (Text.trimEnd _).head? = some c from h, Option.some_or]

theorem not_blank_of_getLast?_trim {s : List Char} {c : Char} (h : c ∈ (Text.trim s).getLast?) :
    Text.isBlank c = false := by
  rw [Text.trim, Text.trimEnd, List.getLast?_reverse] at h
  exact not_blank_of_head?_dropBlanks h

/-! ### Tightening -/

/-- A space is dropped beside a tight mark, and no other space is there to take its place. -/
theorem spaced_tightenFrom (b : Bool) {s : List Char} (hspaced : s.IsChain SpacedOut)
    (hlast : ' ' ∉ s.getLast?) :
    (tightenFrom b s).IsChain MayMeet ∧ (b = true → ' ' ∉ (tightenFrom b s).head?) := by
  induction s generalizing b with
  | nil => exact ⟨.nil, fun _ h => absurd h (by simp [tightenFrom])⟩
  | cons c rest ih =>
      rw [List.isChain_cons] at hspaced
      have hlastRest : ' ' ∉ rest.getLast? := by
        cases rest with
        | nil => simp
        | cons d more => rwa [List.getLast?_cons_cons] at hlast
      have hih := fun b => ih b hspaced.2 hlastRest
      rw [tightenFrom]
      split
      · exact hih b
      · rename_i hkept
        simp only [Bool.and_eq_true, decide_eq_true_eq, Bool.or_eq_true, not_and, not_or] at hkept
        refine ⟨(hih (isTight c)).1.cons fun d hd => ⟨?_, fun hc => ?_⟩, fun hb => ?_⟩
        · -- A space that stays has a character behind it that is neither a space nor tight.
          rintro rfl
          cases rest with
          | nil => exact absurd rfl hlast
          | cons e more =>
              have hspace : e ≠ ' ' := hspaced.1 e rfl rfl
              have hhead : (tightenFrom (isTight ' ') (e :: more)).head? = some e := by
                rw [tightenFrom, if_neg (by simp [hspace])]
                rfl
              obtain rfl : e = d := Option.some.inj (hhead.symm.trans hd)
              exact ⟨hspace, by simpa using (hkept rfl).2⟩
        · rintro rfl
          rw [hc] at hd
          exact (hih true).2 rfl hd
        · intro hd
          exact (hkept (Option.some.inj hd)).1 hb

theorem tightenFrom_eq {b : Bool} {s : List Char} (hspaced : s.IsChain MayMeet)
    (hhead : b = true → ' ' ∉ s.head?) : tightenFrom b s = s := by
  induction s generalizing b with
  | nil => rfl
  | cons c rest ih =>
      rw [List.isChain_cons] at hspaced
      rw [tightenFrom, if_neg, ih hspaced.2]
      · rintro hc hd
        exact (hspaced.1 ' ' hd).2 hc rfl
      · simp only [Bool.and_eq_true, decide_eq_true_eq, Bool.or_eq_true, not_and, not_or]
        rintro rfl
        refine ⟨fun hb => hhead hb rfl, fun htight => ?_⟩
        obtain ⟨d, hd, hdtight⟩ := (Option.any_eq_true _ _).mp htight
        rw [((hspaced.1 d hd).1 rfl).2] at hdtight
        exact absurd hdtight (by decide)

/-- A text that begins and ends without a space keeps its first and its last character. -/
theorem ends_tighten {s : List Char} (hfirst : ' ' ∉ s.head?) (hlast : ' ' ∉ s.getLast?) :
    (tighten s).head? = s.head? ∧ (tighten s).getLast? = s.getLast? := by
  constructor
  · cases s with
    | nil => rfl
    | cons c rest =>
        have hspace : c ≠ ' ' := fun h => hfirst (by rw [h]; rfl)
        rw [tighten, tightenFrom, if_neg (by simp [hspace])]
        rfl
  · rcases List.eq_nil_or_concat s with rfl | ⟨front, m, rfl⟩
    · rfl
    · rw [List.concat_eq_append, List.getLast?_concat] at hlast ⊢
      obtain ⟨u, hu⟩ := tightenFrom_append_exists false (m := m) (fun h => hlast (by rw [h]; rfl))
        front []
      rw [tighten, hu, tightenFrom, List.getLast?_concat]

/-! ### Upper case -/

theorem mayMeet_of_not_structural {c d : Char}
    (h : isStructural c = false ∨ isStructural d = false) : MayMeet c d := by
  have hfree {m : Char} (hm : isStructural m = false) : m ≠ ' ' ∧ isTight m = false := by
    simp only [isStructural, Bool.or_eq_false_iff] at hm
    exact ⟨fun hspace => absurd hm.1.1.1.1.1 (by rw [hspace]; decide), hm.1.1.1.1.2⟩
  rcases h with h | h
  · refine ⟨fun hc => absurd hc (hfree h).1, fun hc => ?_⟩
    rw [(hfree h).2] at hc
    exact absurd hc Bool.false_ne_true
  · exact ⟨fun _ => hfree h, fun _ => (hfree h).1⟩

theorem spaced_upper {s : List Char} (h : s.IsChain MayMeet) :
    (Text.upper s).IsChain MayMeet := by
  refine isChain_upper (fun c => ?_) h
  rcases hs : isStructural c with _ | _
  · right
    intro d hd e
    have hfree := upperChar_of_not_structural hs hd
    exact ⟨mayMeet_of_not_structural (.inl hfree), mayMeet_of_not_structural (.inr hfree)⟩
  · exact .inl (upperChar_of_structural hs)

/-- A space at an end of a text in upper case stands there in the text. -/
theorem space_of_mem_upperChar {c : Char} (h : ' ' ∈ Text.upperChar c) : c = ' ' :=
  (Text.eq_of_mem_upperChar (by decide) h).symm

theorem ends_upper {s : List Char} (hfirst : ' ' ∉ s.head?) (hlast : ' ' ∉ s.getLast?) :
    ' ' ∉ (Text.upper s).head? ∧ ' ' ∉ (Text.upper s).getLast? := by
  constructor
  · intro h
    cases s with
    | nil => exact hfirst h
    | cons c rest =>
        rw [upper_cons, List.head?_append_of_ne_nil _ (upperChar_ne_nil c)] at h
        exact hfirst (by rw [space_of_mem_upperChar (List.mem_of_mem_head? h)]; rfl)
  · intro h
    rcases List.eq_nil_or_concat s with rfl | ⟨front, c, rfl⟩
    · exact hlast h
    · have hc : Text.upper [c] = Text.upperChar c := List.append_nil _
      rw [List.concat_eq_append, Text.upper_append, hc,
        List.getLast?_append_of_ne_nil _ (upperChar_ne_nil c)] at h
      rw [List.concat_eq_append, List.getLast?_concat] at hlast
      exact hlast (by rw [space_of_mem_upperChar (List.mem_of_mem_getLast? h)]; rfl)

/-! ### The normal form -/

/-- The normal form of a text is in normal form. -/
theorem isNormal_normalize (s : List Char) : IsNormal (normalize s) := by
  set t := Text.trim (collapse (withoutComments s)) with ht
  have hblank : Text.isBlank ' ' = true := by decide
  have hfirst : ' ' ∉ t.head? := fun h => by
    rw [not_blank_of_head?_trim h] at hblank
    exact absurd hblank (by decide)
  have hlast : ' ' ∉ t.getLast? := fun h => by
    rw [not_blank_of_getLast?_trim h] at hblank
    exact absurd hblank (by decide)
  have hplain : ∀ c ∈ t, Text.isBlank c = true → c = ' ' := fun c hc =>
    plain_collapseFrom false _ c ((isInfix_trim _).subset hc)
  have hspaced : t.IsChain SpacedOut :=
    List.IsChain.infix (spacedOut_collapseFrom false _).1 (isInfix_trim _)
  obtain ⟨hfirst', hlast'⟩ := ends_tighten hfirst hlast
  rw [← hfirst'] at hfirst
  obtain ⟨hfirstUpper, hlastUpper⟩ := ends_upper hfirst (hlast' ▸ hlast)
  refine ⟨fun c hc hcblank => ?_, hfirstUpper, hlastUpper,
    spaced_upper (spaced_tightenFrom false hspaced hlast).1,
    (commentFree_withoutComments s).squeeze.upper.not_mem_lex, Text.upper_upper _⟩
  -- A blank of the normal form was in the text before tightening and upper case.
  rw [normalize, mem_upper_iff (isStructural_of_isBlank hcblank)] at hc
  by_contra hne
  exact hne (hplain c ((mem_tightenFrom_iff false hne t).mp hc) hcblank)

/-- A text in normal form is its own normal form. -/
theorem normalize_of_isNormal {s : List Char} (h : IsNormal s) : normalize s = s := by
  have hspaced : s.IsChain SpacedOut := h.spaced.imp fun c d hmeet hc => (hmeet.1 hc).1
  have hends {c : Char} (hc : c ∈ s) (hspace : c ≠ ' ') : Text.isBlank c = false := by
    rw [Bool.eq_false_iff]
    exact fun hblank => hspace (h.plain c hc hblank)
  have htrim : Text.trim s = s := by
    refine trim_eq (fun c hc => hends (List.mem_of_mem_head? hc) ?_)
      fun c hc => hends (List.mem_of_mem_getLast? hc) ?_
    · rintro rfl
      exact h.first hc
    · rintro rfl
      exact h.last hc
  rw [normalize, withoutComments_eq h.uncommented, collapse,
    collapseFrom_eq h.plain hspaced fun hb => absurd hb Bool.false_ne_true, htrim, tighten,
    tightenFrom_eq h.spaced fun hb => absurd hb Bool.false_ne_true, h.capital]

/-- The normal form of a text is in normal form, and it is its own normal form. -/
theorem normalize_settles (s : List Char) :
    IsNormal (normalize s) ∧ normalize (normalize s) = normalize s :=
  ⟨isNormal_normalize s, normalize_of_isNormal (isNormal_normalize s)⟩

end Gate

end SqlCatalog
