import SqlCatalog.Proofs.Gate.Squeezing

/-!
# Words and the Normal Form

The rules of the gate look for words, and they look for them in the normal form. A
word that a reader sees in a query has to be there as well, so bringing a text into
normal form must neither join two words nor cut one in two.

The words of a text are not enough for an induction, because a character put in front
of a text may go on with its first word or not. `SameWords` therefore also compares
how the texts begin, and is then kept by every character in front. Dropping blanks at
the very front is the one step that changes how a text begins; there only the words
are compared.

## Main definitions

* `joins`: Whether a text begins with a word.
* `SameWords`: Two texts with the same words that begin alike.

## Theorems

* `SameWords.append`: Whatever stands in front, the words stay the same.
* `wordsOf_upper_squeeze`: The normal form has the words of the upper-cased text.
* `wordsOf_collapse_upper`: Writing runs of blanks as one blank keeps the words.
-/

namespace SqlCatalog

namespace Gate

/-- Whether a text begins with a word. -/
def joins (s : List Char) : Bool :=
  s.head?.any Text.isWordChar

/-- A character put in front of the first word. -/
def pushWord (c : Char) : List (List Char) → List (List Char)
  | [] => [[c]]
  | w :: ws => (c :: w) :: ws

theorem segments_cons (c : Char) (s : List Char) :
    segments (c :: s) = pushChar c (segments s) :=
  rfl

theorem exists_word_of_joins {s : List Char} (h : joins s = true) :
    ∃ w more, segments s = .word w :: more := by
  cases s with
  | nil => exact absurd h (by decide)
  | cons c rest =>
      have hc : Text.isWordChar c = true := h
      rw [segments_cons]
      unfold pushChar
      rw [if_pos hc]
      split
      · exact ⟨_, _, rfl⟩
      · exact ⟨_, _, rfl⟩

theorem ne_word_of_not_joins {s : List Char} (h : joins s = false) (w : List Char)
    (more : List Segment) : segments s ≠ .word w :: more := by
  cases s with
  | nil => exact fun heq => by simp [segments] at heq
  | cons c rest =>
      have hc : Text.isWordChar c = false := h
      rw [segments_cons]
      unfold pushChar
      rw [if_neg (by rw [hc]; decide)]
      simp

theorem wordsOf_cons_mark {c : Char} (h : Text.isWordChar c = false) (s : List Char) :
    wordsOf (c :: s) = wordsOf s := by
  rw [wordsOf, segments_cons]
  unfold pushChar
  rw [if_neg (by rw [h]; decide)]
  rfl

theorem wordsOf_cons_word {c : Char} (h : Text.isWordChar c = true) (s : List Char) :
    wordsOf (c :: s) = if joins s then pushWord c (wordsOf s) else [c] :: wordsOf s := by
  rw [wordsOf, segments_cons]
  unfold pushChar
  rw [if_pos h]
  split
  · rename_i w more heq
    have hjoins : joins s = true := by
      by_cases hj : joins s = true
      · exact hj
      · exact absurd heq (ne_word_of_not_joins (by simpa using hj) w more)
    rw [if_pos hjoins, wordsOf, heq]
    rfl
  · rename_i hne
    have hjoins : ¬joins s = true := by
      intro hj
      rcases exists_word_of_joins hj with ⟨w, more, heq⟩
      exact hne w more heq
    rw [if_neg hjoins]
    rfl

/-- Two texts with the same words that begin alike. -/
structure SameWords (s t : List Char) : Prop where
  joins_eq : joins s = joins t
  words_eq : wordsOf s = wordsOf t

theorem SameWords.refl (s : List Char) : SameWords s s :=
  ⟨rfl, rfl⟩

theorem SameWords.cons {s t : List Char} (h : SameWords s t) (c : Char) :
    SameWords (c :: s) (c :: t) where
  joins_eq := rfl
  words_eq := by
    by_cases hc : Text.isWordChar c = true
    · rw [wordsOf_cons_word hc, wordsOf_cons_word hc, h.joins_eq, h.words_eq]
    · rw [Bool.not_eq_true] at hc
      rw [wordsOf_cons_mark hc, wordsOf_cons_mark hc, h.words_eq]

/-- Whatever stands in front, the words stay the same. -/
theorem SameWords.append {s t : List Char} (h : SameWords s t) (u : List Char) :
    SameWords (u ++ s) (u ++ t) := by
  induction u with
  | nil => exact h
  | cons c rest ih => exact ih.cons c

/-! ### Structural characters belong to no word -/

theorem isWordChar_of_structural {c : Char} (h : isStructural c = true) :
    Text.isWordChar c = false := by
  have hall : ∀ n ∈ structuralCodes, Text.isWordChar (Char.ofNat n) = false := by
    decide +kernel
  have hc := hall c.toNat (mem_structuralCodes h)
  rwa [Char.ofNat_toNat] at hc

theorem wordsOf_upper_cons {c : Char} (h : isStructural c = true) (s : List Char) :
    wordsOf (Text.upper (c :: s)) = wordsOf (Text.upper s) := by
  rw [upper_cons, upperChar_of_structural h]
  exact wordsOf_cons_mark (isWordChar_of_structural h) _

theorem joins_upper_cons {c : Char} (h : isStructural c = true) (s : List Char) :
    joins (Text.upper (c :: s)) = false := by
  rw [upper_cons, upperChar_of_structural h]
  exact isWordChar_of_structural h

/-! ### The steps of the normal form -/

theorem isStructural_space : isStructural ' ' = true := by
  decide

/-- Collapsing keeps the words. It may drop the first blank of a text when it goes on
    after one, and then the text may begin otherwise. -/
theorem sameWords_collapseFrom (b : Bool) (s : List Char) :
    wordsOf (Text.upper (collapseFrom b s)) = wordsOf (Text.upper s) ∧
      (b = false → joins (Text.upper (collapseFrom b s)) = joins (Text.upper s)) := by
  induction s generalizing b with
  | nil => exact ⟨rfl, fun _ => rfl⟩
  | cons c rest ih =>
      rw [collapseFrom]
      split
      · rename_i hc
        have hs := isStructural_of_isBlank hc
        cases b with
        | true =>
            refine ⟨?_, fun h => absurd h (by decide)⟩
            rw [if_pos rfl, wordsOf_upper_cons hs, (ih true).1]
        | false =>
            rw [if_neg Bool.false_ne_true, wordsOf_upper_cons hs, joins_upper_cons hs,
              wordsOf_upper_cons isStructural_space, joins_upper_cons isStructural_space]
            exact ⟨(ih true).1, fun _ => rfl⟩
      · have hsame : SameWords (Text.upper (collapseFrom false rest)) (Text.upper rest) :=
          ⟨(ih false).2 rfl, (ih false).1⟩
        have happend := hsame.append (Text.upperChar c)
        rw [upper_cons, upper_cons]
        exact ⟨happend.words_eq, fun _ => happend.joins_eq⟩

theorem wordsOf_upper_dropBlanks (s : List Char) :
    wordsOf (Text.upper (s.dropWhile Text.isBlank)) = wordsOf (Text.upper s) := by
  induction s with
  | nil => rfl
  | cons c rest ih =>
      rw [List.dropWhile_cons]
      split
      · rename_i hc
        rw [ih, wordsOf_upper_cons (isStructural_of_isBlank hc)]
      · rfl

theorem sameWords_trimEnd (s : List Char) :
    SameWords (Text.upper (Text.trimEnd s)) (Text.upper s) := by
  induction s with
  | nil => exact SameWords.refl _
  | cons c rest ih =>
      rw [trimEnd_cons]
      split
      · rename_i h
        have hs := isStructural_of_isBlank h.2
        rw [h.1] at ih
        refine ⟨(joins_upper_cons hs rest).symm, ?_⟩
        rw [wordsOf_upper_cons hs, ← ih.words_eq]
      · rw [upper_cons, upper_cons]
        exact ih.append _

/-- Tightening keeps the words. It may drop the first blank of a text when it goes on
    after a tight mark, and then the text may begin otherwise. -/
theorem sameWords_tightenFrom (b : Bool) (s : List Char) :
    wordsOf (Text.upper (tightenFrom b s)) = wordsOf (Text.upper s) ∧
      (b = false → joins (Text.upper (tightenFrom b s)) = joins (Text.upper s)) := by
  induction s generalizing b with
  | nil => exact ⟨rfl, fun _ => rfl⟩
  | cons c rest ih =>
      rw [tightenFrom]
      split
      · rename_i hc
        simp only [Bool.and_eq_true, Bool.or_eq_true, decide_eq_true_eq] at hc
        rcases hc with ⟨rfl, hc⟩
        rw [wordsOf_upper_cons isStructural_space, joins_upper_cons isStructural_space]
        refine ⟨(ih b).1, ?_⟩
        -- Without a tight mark before the blank there is one behind it.
        rintro rfl
        have hhead : rest.head?.any isTight = true := by simpa using hc
        rw [(ih false).2 rfl]
        cases rest with
        | nil => rfl
        | cons d more => exact joins_upper_cons (isStructural_of_isTight hhead) more
      · by_cases ht : isTight c = true
        · have hs := isStructural_of_isTight ht
          rw [wordsOf_upper_cons hs, wordsOf_upper_cons hs, joins_upper_cons hs,
            joins_upper_cons hs]
          exact ⟨(ih _).1, fun _ => rfl⟩
        · rw [Bool.not_eq_true] at ht
          have hsame : SameWords (Text.upper (tightenFrom false rest)) (Text.upper rest) :=
            ⟨(ih false).2 rfl, (ih false).1⟩
          have happend := hsame.append (Text.upperChar c)
          rw [ht, upper_cons, upper_cons]
          exact ⟨happend.words_eq, fun _ => happend.joins_eq⟩

/-- The normal form has the words of the upper-cased text. -/
theorem wordsOf_upper_squeeze (s : List Char) :
    wordsOf (Text.upper (squeeze s)) = wordsOf (Text.upper s) := by
  rw [squeeze, tighten, (sameWords_tightenFrom false _).1, Text.trim,
    (sameWords_trimEnd _).words_eq, wordsOf_upper_dropBlanks, collapse,
    (sameWords_collapseFrom false s).1]

/-! ### Collapsing after upper case -/

theorem collapseFrom_append_of_no_blank {u : List Char} (hne : u ≠ [])
    (h : ∀ c ∈ u, Text.isBlank c = false) (b : Bool) (s : List Char) :
    collapseFrom b (u ++ s) = u ++ collapseFrom false s := by
  induction u generalizing b with
  | nil => exact absurd rfl hne
  | cons c rest ih =>
      have hc : Text.isBlank c = false := h c List.mem_cons_self
      rw [List.cons_append, collapseFrom, if_neg (by rw [hc]; decide), List.cons_append]
      cases rest with
      | nil => rfl
      | cons d more =>
          rw [ih (List.cons_ne_nil _ _) (fun e he => h e (List.mem_cons_of_mem c he)) false]

theorem collapse_upper (s : List Char) : collapse (Text.upper s) = Text.upper (collapse s) := by
  suffices h : ∀ b, collapseFrom b (Text.upper s) = Text.upper (collapseFrom b s) from h false
  induction s with
  | nil => exact fun _ => rfl
  | cons c rest ih =>
      intro b
      rw [upper_cons, collapseFrom]
      split
      · rename_i hc
        rw [upperChar_of_structural (isStructural_of_isBlank hc), List.singleton_append,
          collapseFrom, if_pos hc, ih true]
        split
        · rfl
        · rw [upper_cons, upperChar_of_structural isStructural_space]
          rfl
      · rename_i hc
        rw [collapseFrom_append_of_no_blank (upperChar_ne_nil c) ?_ b, ih false, upper_cons]
        intro d hd
        rw [Bool.eq_false_iff]
        intro hblank
        -- A blank could only come from a structural character, which is its own capital.
        by_cases hs : isStructural c = true
        · rw [upperChar_of_structural hs, List.mem_singleton] at hd
          rw [hd] at hblank
          exact hc hblank
        · have hfree := upperChar_of_not_structural (by simpa using hs) hd
          rw [isStructural_of_isBlank hblank] at hfree
          exact absurd hfree (by decide)

/-- Writing runs of blanks as one blank keeps the words. -/
theorem wordsOf_collapse_upper (s : List Char) :
    wordsOf (collapse (Text.upper s)) = wordsOf (Text.upper s) := by
  rw [collapse_upper, collapse, (sameWords_collapseFrom false s).1]

end Gate

end SqlCatalog
