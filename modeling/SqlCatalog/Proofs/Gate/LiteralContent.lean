import Mathlib.Algebra.Group.Nat.Even
import Mathlib.Data.List.Infix
import SqlCatalog.Proofs.Gate.LiveText
import SqlCatalog.Proofs.Gate.Words

/-!
# The Content of a Literal

What stands inside a string literal has no part in the verdict on a query. A keyword, a
semicolon, a bracket or a comment mark in it is as good as a letter, and whatever follows the
literal is looked at in the same way, be it a query, half of one, or something that is none.

Two queries are compared that differ in the content of one literal. All checks but a few look
at the view, and the views are equal: in front of the literal every apostrophe is paired, so
the reading for comments and the pass for single quotes both come to the literal where it
begins, and both leave it where it ends. The other checks look at the text as it stands. What
they find before the literal and behind it is the same on both sides, and inside it they find
nothing. The one that minds where the text ends counts from a place that is as far from the
end in the one text as in the other.

Three things in the content could be told, and have to be ruled out: an apostrophe, which ends
the literal, a backslash, which hides its end from the scan for semicolons, and a control
character, which is objected to wherever it stands.

## Main definitions

* `Quiet`: A text without other quotes, comments and backslashes.
* `Leads`: A text that a literal may follow.
* `Harmless`: A content that cannot be told.
* `Paired`: Every apostrophe opens a literal that is closed.
* `Candidate.SameAnswers`: Two queries that the checks cannot tell apart.

## Theorems

* `paired_of_even`: An even number of apostrophes are paired.
* `Candidate.SameAnswers.verdict_eq`: Such queries have the same verdict.
* `verdict_of_literal`: The content of a literal does not change the verdict.
-/

namespace SqlCatalog

namespace Gate

/-- A text with neither other quotes than apostrophes nor comments nor backslashes. -/
structure Quiet (p : List Char) : Prop where
  noDouble : '"' ∉ p
  noBracket : '[' ∉ p
  noBackslash : '\\' ∉ p
  noLine : ¬['-', '-'] <:+: p
  noBlock : ¬['/', '*'] <:+: p

/-- A text that a literal may follow: a quiet one, in which as many apostrophes close as
    open. -/
structure Leads (p : List Char) : Prop extends Quiet p where
  closed : Even (p.count '\'')

/-- A content of a literal that neither ends it nor hides its end, and that may stand in any
    query. -/
structure Harmless (s : List Char) : Prop where
  noQuote : '\'' ∉ s
  noBackslash : '\\' ∉ s
  noControl : ∀ c ∈ s, isStrayControl c = false

instance (p : List Char) : Decidable (Quiet p) :=
  decidable_of_iff
    ('"' ∉ p ∧ '[' ∉ p ∧ '\\' ∉ p ∧ ¬['-', '-'] <:+: p ∧ ¬['/', '*'] <:+: p)
    ⟨fun ⟨hdouble, hbracket, hback, hline, hblock⟩ => ⟨hdouble, hbracket, hback, hline, hblock⟩,
      fun h => ⟨h.noDouble, h.noBracket, h.noBackslash, h.noLine, h.noBlock⟩⟩

instance (p : List Char) : Decidable (Leads p) :=
  decidable_of_iff (Quiet p ∧ Even (p.count '\''))
    ⟨fun h => ⟨h.1, h.2⟩, fun h => ⟨h.toQuiet, h.closed⟩⟩

instance (s : List Char) : Decidable (Harmless s) :=
  decidable_of_iff ('\'' ∉ s ∧ '\\' ∉ s ∧ (s.all fun c => !isStrayControl c) = true)
    ⟨fun h => ⟨h.1, h.2.1, by simpa using h.2.2⟩,
      fun h => ⟨h.noQuote, h.noBackslash, by simpa using h.noControl⟩⟩

theorem Quiet.of_suffix {p q : List Char} (h : Quiet p) (hsub : q <:+ p) : Quiet q where
  noDouble hmem := h.noDouble (hsub.subset hmem)
  noBracket hmem := h.noBracket (hsub.subset hmem)
  noBackslash hmem := h.noBackslash (hsub.subset hmem)
  noLine hline := h.noLine (hline.trans hsub.isInfix)
  noBlock hblock := h.noBlock (hblock.trans hsub.isInfix)

/-! ### Paired apostrophes -/

/-- Every apostrophe of a text opens a literal that is closed. -/
inductive Paired : List Char → Prop
  | nil : Paired []
  | plain (c : Char) (rest : List Char) : c ≠ '\'' → Paired rest → Paired (c :: rest)
  | literal (content rest : List Char) : '\'' ∉ content → Paired rest →
      Paired ('\'' :: (content ++ '\'' :: rest))

/-- An even number of apostrophes are paired, by induction on the length of the text: the
    first of them is followed by another one, and an even number is left behind it. -/
theorem paired_of_even (p : List Char) (h : Even (p.count '\'')) : Paired p := by
  induction hn : p.length using Nat.strong_induction_on generalizing p with
  | _ n ih =>
    cases p with
    | nil => exact .nil
    | cons c rest =>
        rw [List.length_cons] at hn
        by_cases hc : c = '\''
        · rw [hc, List.count_cons_self, Nat.even_add_one] at h
          rcases hbreak : breakAt '\'' rest with _ | ⟨content, after⟩
          · -- The apostrophe would be the only one.
            rw [List.count_eq_zero.mpr (not_mem_of_breakAt_none hbreak)] at h
            exact absurd Even.zero h
          · have hcontent := not_mem_of_breakAt hbreak
            have hrest := eq_append_of_breakAt hbreak
            have hlength := length_lt_of_breakAt hbreak
            rw [hrest, List.count_append, List.count_cons_self,
              List.count_eq_zero.mpr hcontent, Nat.zero_add, Nat.even_add_one, not_not] at h
            rw [hc, hrest]
            exact .literal content after hcontent (ih after.length (by omega) after h rfl)
        · rw [List.count_cons_of_ne hc] at h
          exact .plain c rest hc (ih rest.length (by omega) rest h rfl)

/-- The pass for single quotes empties a literal. -/
theorem emptyRuns_literal {s : List Char} (h : '\'' ∉ s) (q : List Char) :
    emptyRuns .single ('\'' :: (s ++ '\'' :: q)) = '\'' :: '\'' :: emptyRuns .single q :=
  @emptyRuns_run .single s h q

/-- The pass for single quotes comes out of a paired text as it went in. -/
theorem emptyRuns_append_of_paired {p : List Char} (h : Paired p) (t : List Char) :
    emptyRuns .single (p ++ t) = emptyRuns .single p ++ emptyRuns .single t := by
  induction h with
  | nil => rw [emptyRuns, List.nil_append, List.nil_append]
  | plain c rest hc _ ih =>
      have hopening : c ≠ QuoteKind.single.opening := hc
      rw [List.cons_append, emptyRuns_cons hopening, emptyRuns_cons hopening, ih,
        List.cons_append]
  | literal content rest hcontent _ ih =>
      rw [List.cons_append, List.append_assoc, List.cons_append, emptyRuns_literal hcontent,
        emptyRuns_literal hcontent, ih, List.cons_append, List.cons_append]

/-! ### The view -/

/-- The reading for comments leaves a literal as it is and goes on behind it. -/
theorem withoutComments_literal {s : List Char} (h : '\'' ∉ s) (q : List Char) :
    withoutComments ('\'' :: (s ++ '\'' :: q)) = '\'' :: (s ++ '\'' :: withoutComments q) := by
  have hrun : withoutComments ('\'' :: (s ++ '\'' :: q)) =
      '\'' :: (s ++ ['\'']) ++ withoutComments q :=
    congrArg uncommentedText (@lex_run .single s h q)
  rw [hrun, List.cons_append, List.append_assoc, List.singleton_append]

/-- A quiet text goes through the reading for comments as it is, up to a literal behind it. -/
theorem withoutComments_append {p : List Char} (h : Paired p) (hquiet : Quiet p)
    (t : List Char) :
    withoutComments (p ++ '\'' :: t) = p ++ withoutComments ('\'' :: t) := by
  induction h with
  | nil => rfl
  | plain c rest hc _ ih =>
      have hrest : Quiet rest := hquiet.of_suffix (List.suffix_cons c rest)
      have hdouble : c ≠ '"' := fun heq => hquiet.noDouble (heq ▸ List.mem_cons_self)
      have hbracket : c ≠ '[' := fun heq => hquiet.noBracket (heq ▸ List.mem_cons_self)
      have hkind : QuoteKind.ofChar? c = none := by
        rw [QuoteKind.ofChar?, if_neg hc, if_neg hdouble, if_neg hbracket]
      -- No comment begins here: its second mark would have to be the next character of the
      -- text, and behind the text there is an apostrophe.
      have hmark : ∀ d more, d ≠ '\'' → rest ++ '\'' :: t = d :: more → [c, d] <:+: c :: rest := by
        intro d more hd heq
        cases rest with
        | nil => exact absurd (List.cons.inj heq).1.symm hd
        | cons e tail =>
            rw [(List.cons.inj heq).1]
            exact ⟨[], tail, rfl⟩
      have hline : ∀ more, c = '-' → rest ++ '\'' :: t ≠ '-' :: more := by
        intro more hdash heq
        exact hquiet.noLine (hdash ▸ hmark '-' more (by decide) heq)
      have hblock : ∀ more, c = '/' → rest ++ '\'' :: t ≠ '*' :: more := by
        intro more hslash heq
        exact hquiet.noBlock (hslash ▸ hmark '*' more (by decide) heq)
      have hlive := congrArg uncommentedText (lex_live hkind hline hblock)
      exact hlive.trans (congrArg (c :: ·) (ih hrest))
  | literal content rest hcontent _ ih =>
      have hrest : Quiet rest := hquiet.of_suffix
        ((List.suffix_cons _ _).trans ((List.suffix_append _ _).trans (List.suffix_cons _ _)))
      rw [List.cons_append, List.append_assoc, List.cons_append, withoutComments_literal hcontent,
        ih hrest, List.cons_append, List.append_assoc, List.cons_append]

/-- The view of a query with a literal in it, whatever the literal says. -/
theorem view_of_literal {p s : List Char} (hp : Leads p) (hs : '\'' ∉ s) (q : List Char) :
    literalFree (normalize (p ++ '\'' :: (s ++ '\'' :: q))) =
      Text.upper (squeeze (emptyRuns .bracket (emptyRuns .double
        (emptyRuns .single p ++ '\'' :: '\'' :: emptyRuns .single (withoutComments q))))) := by
  have hpaired := paired_of_even p hp.closed
  have hsingle : emptyRuns .single (withoutComments (p ++ '\'' :: (s ++ '\'' :: q))) =
      emptyRuns .single p ++ '\'' :: '\'' :: emptyRuns .single (withoutComments q) := by
    rw [withoutComments_append hpaired hp.toQuiet, withoutComments_literal hs,
      emptyRuns_append_of_paired hpaired, emptyRuns_literal hs]
  rw [normalize_eq, literalFree_upper_squeeze, literalFree, hsingle]

/-! ### The beginning of the normal form -/

theorem pushChar_append_mark (c m : Char) (before after : List Segment) :
    pushChar c (before ++ .mark m :: after) = pushChar c before ++ .mark m :: after := by
  unfold pushChar
  split
  · rcases before with _ | ⟨_ | _, _⟩ <;> rfl
  · rfl

/-- A mark divides the segments of a text. -/
theorem segments_append_mark {m : Char} (hm : Text.isWordChar m = false) (s t : List Char) :
    segments (s ++ m :: t) = segments s ++ .mark m :: segments t := by
  induction s with
  | nil =>
      rw [List.nil_append, segments_cons]
      unfold pushChar
      rw [if_neg (by rw [hm]; decide)]
      rfl
  | cons c rest ih => rw [List.cons_append, segments_cons, ih, pushChar_append_mark, segments_cons]

/-- How a text begins can be told from what stands before a mark in it. -/
theorem startsWithWord_append_mark {m : Char} (hm : Text.isWordChar m = false)
    (words : List String) (s t : List Char) :
    startsWithWord words (s ++ m :: t) = startsWithWord words s := by
  unfold startsWithWord
  rw [segments_append_mark hm]
  rcases segments s with _ | ⟨_ | _, _⟩ <;> rfl

/-- What stands before a quote mark is brought into normal form on its own. -/
theorem upper_squeeze_append_mark {m : Char} (hm : isQuoteMark m = true) (s : List Char) :
    ∃ u, ∀ t, ∃ v, Text.upper (squeeze (s ++ m :: t)) = u ++ m :: v := by
  refine ⟨Text.upper (tightenFrom false ((collapseFrom false s).dropWhile Text.isBlank)),
    fun t => ⟨Text.upper (tightenFrom false (Text.trimEnd (collapseFrom false t))), ?_⟩⟩
  rw [squeeze, collapse, (collapse_splits false).append m s t hm, Text.trim,
    dropBlanks_splits.append m _ _ hm, trimEnd_splits.append m _ _ hm, tighten,
    (tighten_splits false).append m _ _ hm, upper_splits.append m _ _ hm]
  rfl

/-- How a query begins can be told from what stands before a literal in it. -/
theorem startsWithWord_of_literal {p s s' : List Char} (hp : Leads p) (hs : '\'' ∉ s)
    (hs' : '\'' ∉ s') (words : List String) (q : List Char) :
    startsWithWord words (normalize (p ++ '\'' :: (s ++ '\'' :: q))) =
      startsWithWord words (normalize (p ++ '\'' :: (s' ++ '\'' :: q))) := by
  have hpaired := paired_of_even p hp.closed
  have hword : Text.isWordChar '\'' = false := isWordChar_of_structural (by decide)
  obtain ⟨u, hu⟩ := upper_squeeze_append_mark (m := '\'') (by decide) p
  have hstart : ∀ content, '\'' ∉ content →
      startsWithWord words (normalize (p ++ '\'' :: (content ++ '\'' :: q))) =
        startsWithWord words u := by
    intro content hcontent
    obtain ⟨v, hv⟩ := hu (content ++ '\'' :: withoutComments q)
    rw [normalize_eq, withoutComments_append hpaired hp.toQuiet, withoutComments_literal hcontent,
      hv, startsWithWord_append_mark hword]
  rw [hstart s hs, hstart s' hs']

/-! ### The scan for semicolons -/

/-- A plain character leaves the scan inside the literal. -/
theorem next_inside {c : Char} (hquote : c ≠ '\'') (hback : c ≠ '\\') :
    Place.next .inside c = .inside := by
  rw [Place.next, if_neg hback, if_neg hquote]

/-- So does a text without apostrophes and backslashes. -/
theorem inside_of_plain {s : List Char} (hquote : '\'' ∉ s) (hback : '\\' ∉ s) :
    s.foldl Place.next .inside = .inside := by
  induction s with
  | nil => rfl
  | cons c rest ih =>
      rw [List.mem_cons, not_or] at hquote hback
      rw [List.foldl_cons, next_inside (Ne.symm hquote.1) (Ne.symm hback.1)]
      exact ih hquote.2 hback.2

/-- The scan for semicolons comes out of a paired text as it went in. -/
theorem outside_of_paired {p : List Char} (h : Paired p) (hback : '\\' ∉ p) :
    p.foldl Place.next .outside = .outside := by
  induction h with
  | nil => rfl
  | plain c rest hc _ ih =>
      rw [List.mem_cons, not_or] at hback
      rw [List.foldl_cons, Place.next, if_neg hc, ih hback.2]
  | literal content rest hcontent _ ih =>
      simp only [List.mem_cons, List.mem_append, not_or] at hback
      rw [List.foldl_cons, List.foldl_append, Place.next, if_pos rfl,
        inside_of_plain hcontent hback.2.1, List.foldl_cons]
      exact ih hback.2.2.2

/-- The scan goes through a text piece by piece. -/
theorem stackedFrom_append (size index : Nat) (place : Place) (s t : List Char) :
    stackedFrom size place index (s ++ t) =
      (stackedFrom size place index s).or
        (stackedFrom size (s.foldl Place.next place) (index + s.length) t) := by
  induction s generalizing place index with
  | nil => rfl
  | cons c rest ih =>
      rw [List.cons_append, stackedFrom, stackedFrom]
      split
      · rfl
      · rw [ih, List.foldl_cons, List.length_cons, Nat.add_assoc, Nat.add_comm 1]

/-- As long as the end of the text is not reached, it does not matter where it is. -/
theorem stackedFrom_of_lt {m n index : Nat} {place : Place} {s : List Char}
    (hm : index + s.length < m) (hn : index + s.length < n) :
    stackedFrom m place index s = stackedFrom n place index s := by
  induction s generalizing place index with
  | nil => rfl
  | cons c rest ih =>
      rw [List.length_cons] at hm hn
      have hm' : (index + 1 != m) = true := by rw [bne_iff_ne]; omega
      have hn' : (index + 1 != n) = true := by rw [bne_iff_ne]; omega
      rw [stackedFrom, stackedFrom, hm', hn', ih (by omega) (by omega)]

/-- It does not matter where the text stands, as long as its end is moved with it. -/
theorem stackedFrom_shift (size index k : Nat) (place : Place) (s : List Char) :
    stackedFrom (size + k) place (index + k) s =
      (stackedFrom size place index s).map (· + k) := by
  induction s generalizing place index with
  | nil => rfl
  | cons c rest ih =>
      have hend : (index + k + 1 != size + k) = (index + 1 != size) := by
        rw [Bool.eq_iff_iff, bne_iff_ne, bne_iff_ne]
        omega
      have hnext := ih (index + 1) (place.next c)
      rw [Nat.add_right_comm] at hnext
      rw [stackedFrom, stackedFrom, hend, hnext]
      split <;> rfl

/-- Inside a literal that does not end the scan finds nothing. -/
theorem stackedFrom_inside {s : List Char} (hquote : '\'' ∉ s) (hback : '\\' ∉ s)
    (size index : Nat) : stackedFrom size .inside index s = none := by
  induction s generalizing index with
  | nil => rfl
  | cons c rest ih =>
      rw [List.mem_cons, not_or] at hquote hback
      rw [stackedFrom, next_inside (Ne.symm hquote.1) (Ne.symm hback.1)]
      exact ih hquote.2 hback.2 (index + 1)

theorem stackedFrom_quote (size index : Nat) (place : Place) (t : List Char) :
    stackedFrom size place index ('\'' :: t) =
      stackedFrom size (place.next '\'') (index + 1) t := by
  rw [stackedFrom]
  simp

/-- The scan finds what it finds before the literal, or else what it finds behind it. -/
theorem stackedSemicolon?_of_literal {p s : List Char} (hp : Leads p) (hs : Harmless s)
    (q : List Char) :
    stackedSemicolon? (p ++ '\'' :: (s ++ '\'' :: q)) =
      (stackedFrom (p.length + 1) .outside 0 p).or
        ((stackedSemicolon? q).map (· + (p.length + s.length + 2))) := by
  have hpaired := paired_of_even p hp.closed
  have hquote : Text.isBlank '\'' = false := by decide
  have htrim : Text.trimEnd (p ++ '\'' :: (s ++ '\'' :: q)) =
      p ++ '\'' :: (s ++ '\'' :: Text.trimEnd q) := by
    rw [trimEnd_append_mark hquote, trimEnd_append_mark hquote]
  have hsize : (p ++ '\'' :: (s ++ '\'' :: Text.trimEnd q)).length =
      (Text.trimEnd q).length + (p.length + s.length + 2) := by
    simp only [List.length_append, List.length_cons]
    omega
  -- The place behind each mark, and what is found there on its own.
  have hopen : Place.next .outside '\'' = .inside := rfl
  have hclose : Place.next .inside '\'' = .outside := rfl
  have hlead : stackedFrom ((Text.trimEnd q).length + (p.length + s.length + 2)) .outside 0 p =
      stackedFrom (p.length + 1) .outside 0 p := stackedFrom_of_lt (by omega) (by omega)
  have hbehind := stackedFrom_shift (Text.trimEnd q).length 0 (p.length + s.length + 2) .outside q
  have hplace : 0 + p.length + 1 + s.length + 1 = 0 + (p.length + s.length + 2) := by omega
  rw [stackedSemicolon?, htrim, hsize, stackedFrom_append, outside_of_paired hpaired hp.noBackslash,
    stackedFrom_quote, hopen, stackedFrom_append, inside_of_plain hs.noQuote hs.noBackslash,
    stackedFrom_inside hs.noQuote hs.noBackslash, stackedFrom_quote, hclose, Option.none_or,
    hplace, hbehind, hlead, stackedSemicolon?]

/-! ### The verdict -/

/-- Two queries about which the checks find the same. -/
structure Candidate.SameAnswers (a b : Candidate) : Prop where
  view : a.view = b.view
  blank : Text.allBlank a.text = Text.allBlank b.text
  long : notTooLong a = notTooLong b
  start : startsAsRead a = startsAsRead b
  stacked : (stackedSemicolon? a.text).isSome = (stackedSemicolon? b.text).isSome
  control : a.text.find? isStrayControl = b.text.find? isStrayControl

/-- Two queries about which the checks find the same have the same verdict. -/
theorem Candidate.SameAnswers.verdict_eq {a b : Candidate} (h : a.SameAnswers b) :
    a.verdict = b.verdict := by
  have hchecks : ∀ check ∈ checks, check a = check b := by
    intro check hmem
    simp only [checks, List.mem_cons, List.not_mem_nil, or_false] at hmem
    rcases hmem with rfl | rfl | rfl | rfl | rfl | rfl | rfl | rfl | rfl | rfl | rfl | rfl | rfl |
      rfl
    · simp only [notEmpty, h.blank]
    · exact h.long
    · exact h.start
    · simp only [noForbiddenWord, h.view]
    · simp only [noTransaction, h.view]
    · simp only [singleStatement, h.view, h.stacked]
    · simp only [noSelectInto, h.view]
    · simp only [fewUnions, h.view]
    · simp only [noStrayControl, h.control]
    · simp only [fewHexLiterals, h.view]
    · simp only [fewCharCalls, h.view]
    · simp only [noTiming, h.view]
    · simp only [fewSelects, h.view]
    · simp only [shallow, h.view]
  have hmap : checks.map (fun check => check a) = checks.map (fun check => check b) :=
    List.map_congr_left hchecks
  calc a.verdict = (checks.map fun check => check a).findSome? id := by
        rw [List.findSome?_map]; rfl
    _ = (checks.map fun check => check b).findSome? id := by rw [hmap]
    _ = b.verdict := by rw [List.findSome?_map]; rfl

/-- A harmless content holds nothing that the check for control characters finds. -/
theorem find?_control_of_literal {s : List Char} (hs : Harmless s) (p q : List Char) :
    (p ++ '\'' :: (s ++ '\'' :: q)).find? isStrayControl =
      (p.find? isStrayControl).or (q.find? isStrayControl) := by
  have hinside : s.find? isStrayControl = none := by
    rw [List.find?_eq_none]
    intro c hc
    rw [hs.noControl c hc]
    decide
  have hquote : isStrayControl '\'' = false := by decide
  rw [List.find?_append, List.find?_cons_of_neg (by rw [hquote]; decide), List.find?_append,
    hinside, List.find?_cons_of_neg (by rw [hquote]; decide), Option.none_or]

/-- A query with a literal in it is not blank. -/
theorem allBlank_of_literal (p t : List Char) : Text.allBlank (p ++ '\'' :: t) = false := by
  have hquote : Text.isBlank '\'' = false := by decide
  rw [Text.allBlank, List.all_append, List.all_cons, hquote, Bool.false_and, Bool.and_false]

/-- The forms of a query with a literal in it, as long as it is not too long. -/
theorem ofText_of_literal {p t : List Char} (hlen : (p ++ '\'' :: t).length ≤ maxLength) :
    Candidate.ofText (p ++ '\'' :: t) =
      ⟨p ++ '\'' :: t, normalize (p ++ '\'' :: t), literalFree (normalize (p ++ '\'' :: t))⟩ := by
  rw [Candidate.ofText, allBlank_of_literal, Bool.not_false, Bool.true_and,
    if_pos (decide_eq_true hlen)]

/-- The checks cannot tell two queries that differ in the content of one literal. -/
theorem sameAnswers_of_literal {p s s' q : List Char} (hp : Leads p) (hs : Harmless s)
    (hs' : Harmless s') (hlen : (p ++ '\'' :: (s ++ '\'' :: q)).length ≤ maxLength)
    (hlen' : (p ++ '\'' :: (s' ++ '\'' :: q)).length ≤ maxLength) :
    (Candidate.ofText (p ++ '\'' :: (s ++ '\'' :: q))).SameAnswers
      (Candidate.ofText (p ++ '\'' :: (s' ++ '\'' :: q))) := by
  have hfits (a : Candidate) (h : a.text.length ≤ maxLength) : notTooLong a = none :=
    if_neg (Nat.not_lt.mpr h)
  have hstart := startsWithWord_of_literal hp hs.noQuote hs'.noQuote ["SELECT", "WITH"] q
  rw [ofText_of_literal hlen, ofText_of_literal hlen']
  constructor
  case view => exact (view_of_literal hp hs.noQuote q).trans (view_of_literal hp hs'.noQuote q).symm
  case blank => exact (allBlank_of_literal p _).trans (allBlank_of_literal p _).symm
  case long => exact (hfits _ hlen).trans (hfits _ hlen').symm
  case start => simp only [startsAsRead, hstart]
  case stacked =>
    -- The semicolon behind the literal may stand elsewhere, but it is there on both sides.
    simp only [stackedSemicolon?_of_literal hp hs, stackedSemicolon?_of_literal hp hs',
      Option.isSome_or, Option.isSome_map]
  case control => simp only [find?_control_of_literal hs, find?_control_of_literal hs']

/-- What stands inside a string literal cannot change the verdict on a query, neither the rule
    nor the reason. What follows the literal is arbitrary. -/
theorem verdict_of_literal {p s s' q : List Char} (hp : Leads p) (hs : Harmless s)
    (hs' : Harmless s') (hlen : (p ++ '\'' :: (s ++ '\'' :: q)).length ≤ maxLength)
    (hlen' : (p ++ '\'' :: (s' ++ '\'' :: q)).length ≤ maxLength) :
    verdict (p ++ '\'' :: (s ++ '\'' :: q)) = verdict (p ++ '\'' :: (s' ++ '\'' :: q)) :=
  (sameAnswers_of_literal hp hs hs' hlen hlen').verdict_eq

/-- A literal that spells a statement, opens a name and a comment, and is followed by a query
    that is cut off in the middle of a comment. -/
theorem verdict_dropping_literal :
    let p := "SELECT 'a', ".toList
    let s := "; DROP TABLE t -- [\"/*".toList
    let q := " FROM \"t; /* it".toList
    (Leads p ∧ Harmless s ∧ Harmless ['x']) ∧
      verdict (p ++ '\'' :: (s ++ '\'' :: q)) = verdict (p ++ '\'' :: (['x'] ++ '\'' :: q)) := by
  intro p s q
  have hp : Leads p := by decide +kernel
  have hs : Harmless s := by decide +kernel
  have hs' : Harmless ['x'] := by decide +kernel
  exact ⟨⟨hp, hs, hs'⟩,
    verdict_of_literal (q := q) hp hs hs' (by decide +kernel) (by decide +kernel)⟩

end Gate

end SqlCatalog
