import SqlCatalog.Proofs.Gate.Soundness

/-!
# Reading with Backslash Escapes

Some engines let a backslash take the next character of a literal with it. They read a
query otherwise than the gate's view does, and a text that is one statement to the view
may be two to them.

The gate has a scan of its own for this, `stackedSemicolon?`, which knows the backslash
but no comments: an apostrophe in a comment opens a literal for it. Between the two
scans the reading with both is covered only in part. A semicolon of that reading is
found by the scan when the comments before it do not move it, and by the view when the
literals before it have no apostrophe behind a backslash, since then both readings
agree up to there. A query that has a comment of the one sort and a literal of the
other before the semicolon can hold a second statement, and
`escape_then_comment_hides_statement` is one.

## Main definitions

* `Part`: What a text is made of when backslashes escape.
* `escapedLex`: The parts of a text.
* `Part.steady`: A comment that the scan comes out of as it went in.
* `Part.unquoted`: A comment without an apostrophe.
* `Part.unescaped`: A literal without an escaped apostrophe.

## Theorems

* `Part.steady_of_unquoted`: A comment without an apostrophe is steady.
* `flatMap_source_escapedLex`: The parts are the text.
* `outside_of_steady`: Steady comments leave the scan outside literals.
* `lex_of_unescaped`: Unescaped literals are read alike with and without escapes.
* `idle_after_escaped_semicolon`: Nothing follows a semicolon of an allowed query.
-/

namespace SqlCatalog

namespace Gate

/-- What a text is made of when backslashes escape. A literal that never closes takes
    the rest of the text. -/
inductive Part where
  | literal (content : List Char)
  | unclosed (content : List Char)
  | comment (source : List Char)
  | live (c : Char)
deriving DecidableEq

namespace Part

/-- The part of the text that was read. -/
def source : Part → List Char
  | .literal content => '\'' :: (content ++ ['\''])
  | .unclosed content => '\'' :: content
  | .comment s => s
  | .live c => [c]

/-- Comments, blanks and semicolons: nothing that a statement could begin with. -/
def idle : Part → Prop
  | .literal _ => False
  | .unclosed _ => False
  | .comment _ => True
  | .live c => Text.isBlank c = true ∨ c = ';'

/-- A comment behind which the scan for semicolons stands outside literals as it did
    before. -/
def steady : Part → Prop
  | .comment s => s.foldl Place.next .outside = .outside
  | _ => True

/-- A comment without an apostrophe. -/
def unquoted : Part → Prop
  | .comment s => '\'' ∉ s
  | _ => True

/-- A literal in which no apostrophe is escaped. -/
def unescaped : Part → Prop
  | .literal content => '\'' ∉ content
  | _ => True

instance : DecidablePred unquoted
  | .comment s => inferInstanceAs (Decidable ('\'' ∉ s))
  | .literal _ | .unclosed _ | .live _ => .isTrue trivial

instance : DecidablePred unescaped
  | .literal content => inferInstanceAs (Decidable ('\'' ∉ content))
  | .unclosed _ | .comment _ | .live _ => .isTrue trivial

/-- A comment without an apostrophe is steady: nothing in it opens a literal for the scan. -/
theorem steady_of_unquoted {p : Part} (h : p.unquoted) : p.steady := by
  have hstays {s : List Char} (hs : '\'' ∉ s) : s.foldl Place.next .outside = .outside := by
    induction s with
    | nil => rfl
    | cons c rest ih =>
        rw [List.mem_cons, not_or] at hs
        rw [List.foldl_cons, Place.next, if_neg (Ne.symm hs.1)]
        exact ih hs.2
  cases p with
  | comment s => exact hstays h
  | literal _ | unclosed _ | live _ => trivial

end Part

/-- The content of a literal and the text after it. A backslash takes the next character
    with it. -/
def breakLiteral : List Char → Option (List Char × List Char)
  | [] => none
  | '\'' :: rest => some ([], rest)
  | '\\' :: c :: rest => (breakLiteral rest).map fun found => ('\\' :: c :: found.1, found.2)
  | c :: rest => (breakLiteral rest).map fun found => (c :: found.1, found.2)

/-- Breaking off a literal loses nothing but the closing mark, and the scan stays inside
    the literal all along. -/
theorem breakLiteral_spec {s content after : List Char}
    (h : breakLiteral s = some (content, after)) :
    s = content ++ '\'' :: after ∧ content.foldl Place.next .inside = .inside := by
  fun_induction breakLiteral s generalizing content with
  | case1 => exact absurd h (by simp)
  | case2 rest =>
      simp only [Option.some.injEq, Prod.mk.injEq] at h
      rcases h with ⟨rfl, rfl⟩
      exact ⟨rfl, rfl⟩
  | case3 c rest ih =>
      rcases Option.map_eq_some_iff.mp h with ⟨⟨x, y⟩, hxy, heq⟩
      simp only [Prod.mk.injEq] at heq
      rcases heq with ⟨rfl, rfl⟩
      have hrest := ih hxy
      exact ⟨by rw [hrest.1]; rfl, hrest.2⟩
  | case4 c rest hquote hescape ih =>
      rcases Option.map_eq_some_iff.mp h with ⟨⟨x, y⟩, hxy, heq⟩
      simp only [Prod.mk.injEq] at heq
      rcases heq with ⟨rfl, rfl⟩
      have hrest := ih hxy
      refine ⟨by rw [hrest.1]; rfl, ?_⟩
      -- A backslash at the end would leave the literal unclosed.
      have hc : c ≠ '\\' := by
        rintro rfl
        cases rest with
        | nil => exact absurd hxy (by simp [breakLiteral])
        | cons d more => exact hescape d more rfl rfl
      rw [List.foldl_cons, Place.next, if_neg hc, if_neg (fun hq => hquote hq)]
      exact hrest.2

theorem length_lt_of_breakLiteral {s content after : List Char}
    (h : breakLiteral s = some (content, after)) : after.length < s.length := by
  rw [(breakLiteral_spec h).1]
  simp only [List.length_append, List.length_cons]
  omega

/-- The parts of a text. Comments are those of the reading without escapes. -/
def escapedLex : List Char → List Part
  | [] => []
  | '\'' :: rest =>
    match h : breakLiteral rest with
    | some (content, after) =>
      have : after.length < rest.length := length_lt_of_breakLiteral h
      .literal content :: escapedLex after
    | none => [.unclosed rest]
  | '-' :: '-' :: more =>
    have : (more.dropWhile fun d => !isLineEnd d).length ≤ more.length :=
      (List.dropWhile_sublist _).length_le
    .comment ('-' :: '-' :: more.takeWhile fun d => !isLineEnd d)
      :: escapedLex (more.dropWhile fun d => !isLineEnd d)
  | '/' :: '*' :: more =>
    have : (breakComment more).2.length ≤ more.length := length_breakComment_le more
    .comment ('/' :: '*' :: (breakComment more).1) :: escapedLex (breakComment more).2
  | c :: rest => .live c :: escapedLex rest
termination_by s => s.length
decreasing_by all_goals simp_all <;> omega

/-- The parts are the text. -/
theorem flatMap_source_escapedLex (s : List Char) :
    (escapedLex s).flatMap Part.source = s := by
  fun_induction escapedLex s with
  | case1 => rfl
  | case2 rest content after h _ ih => simp [Part.source, ih, (breakLiteral_spec h).1]
  | case3 rest h => simp [Part.source]
  | case4 more _ ih => simp [Part.source, ih]
  | case5 more _ ih => simp [Part.source, ih, breakComment_append]
  | case6 c rest _ _ _ ih => simp [Part.source, ih]

/-- The parts of a blank text are blanks. -/
theorem idle_of_blank {s : List Char} (h : ∀ c ∈ s, Text.isBlank c = true) :
    ∀ p ∈ escapedLex s, p.idle := by
  intro p hp
  have hsource : ∀ c ∈ p.source, Text.isBlank c = true := by
    intro c hc
    refine h c ?_
    rw [← flatMap_source_escapedLex s]
    exact List.mem_flatMap.mpr ⟨p, hp, hc⟩
  cases p with
  | literal content => exact absurd (hsource '\'' List.mem_cons_self) (by decide)
  | unclosed content => exact absurd (hsource '\'' List.mem_cons_self) (by decide)
  | comment s => trivial
  | live c => exact Or.inl (hsource c (List.mem_singleton_self c))

/-! ### The scan that knows no comments -/

theorem stackedFrom_semicolon {size index : Nat} {place : Place} {pre post : List Char}
    (h : stackedFrom size place index (pre ++ ';' :: post) = none)
    (hout : pre.foldl Place.next place = .outside) : index + pre.length + 1 = size := by
  induction pre generalizing place index with
  | nil =>
      rw [List.foldl_nil] at hout
      rw [hout, List.nil_append, stackedFrom] at h
      by_cases hsize : index + 1 = size
      · rw [List.length_nil]
        omega
      · simp [hsize] at h
  | cons c rest ih =>
      rw [List.cons_append, stackedFrom] at h
      split at h
      · exact absurd h (by simp)
      · have hrest := ih h hout
        rw [List.length_cons]
        omega

/-- A semicolon that the scan reaches outside literals is the last mark of the text. -/
theorem blank_of_stackedSemicolon {pre post : List Char}
    (h : stackedSemicolon? (pre ++ ';' :: post) = none)
    (hout : pre.foldl Place.next .outside = .outside) :
    ∀ c ∈ post, Text.isBlank c = true := by
  have hsize := stackedFrom_semicolon h hout
  rw [trimEnd_append_mark (by decide), List.length_append, List.length_cons] at hsize
  -- The scan stops at the end of the text without its blanks, so only blanks follow.
  have hend : Text.trimEnd post = [] := List.eq_nil_of_length_eq_zero (by omega)
  intro c hc
  by_cases hblank : Text.isBlank c = true
  · exact hblank
  · have hmem := (mem_trimEnd_iff (by simpa using hblank) post).mpr hc
    rw [hend] at hmem
    exact absurd hmem List.not_mem_nil

/-- One step of the reading: the part that a text begins with, and what is left. -/
inductive ReadsPart : List Char → Part → List Char → Prop
  | literal (content rest : List Char) :
      content.foldl Place.next .inside = .inside →
      ReadsPart ('\'' :: (content ++ '\'' :: rest)) (.literal content) rest
  | unclosed (content : List Char) : ReadsPart ('\'' :: content) (.unclosed content) []
  | line (more : List Char) :
      ReadsPart ('-' :: '-' :: more)
        (.comment ('-' :: '-' :: more.takeWhile fun d => !isLineEnd d))
        (more.dropWhile fun d => !isLineEnd d)
  | block (more : List Char) :
      ReadsPart ('/' :: '*' :: more) (.comment ('/' :: '*' :: (breakComment more).1))
        (breakComment more).2
  | live (c : Char) (rest : List Char) : c ≠ '\'' →
      (∀ more, c = '-' → rest ≠ '-' :: more) → (∀ more, c = '/' → rest ≠ '*' :: more) →
      ReadsPart (c :: rest) (.live c) rest

theorem escapedLex_cons {s : List Char} {p : Part} {ps : List Part}
    (h : escapedLex s = p :: ps) : ∃ rest, ReadsPart s p rest ∧ escapedLex rest = ps := by
  revert h
  fun_cases escapedLex s with
  | case1 => exact fun h => absurd h (by simp)
  | case2 rest content after hbreak _ =>
      intro h
      rw [List.cons.injEq] at h
      have hspec := breakLiteral_spec hbreak
      rw [← h.1, hspec.1]
      exact ⟨after, .literal _ _ hspec.2, h.2⟩
  | case3 rest hbreak =>
      intro h
      rw [List.cons.injEq] at h
      rw [← h.1, ← h.2]
      exact ⟨[], .unclosed _, by rw [escapedLex]⟩
  | case4 more _ =>
      intro h
      rw [List.cons.injEq] at h
      rw [← h.1]
      exact ⟨_, .line more, h.2⟩
  | case5 more _ =>
      intro h
      rw [List.cons.injEq] at h
      rw [← h.1]
      exact ⟨_, .block more, h.2⟩
  | case6 c rest hquote hline hblock =>
      intro h
      rw [List.cons.injEq] at h
      rw [← h.1]
      exact ⟨rest, .live c rest (fun hc => hquote hc) hline hblock, h.2⟩

theorem ReadsPart.append {s rest : List Char} {p : Part} (h : ReadsPart s p rest) :
    s = p.source ++ rest := by
  cases h with
  | literal content rest _ => simp [Part.source]
  | unclosed content => simp [Part.source]
  | line more => simp [Part.source]
  | block more => simp [Part.source, breakComment_append]
  | live c rest _ _ _ => rfl

/-- The scan goes through a steady part and is outside literals again. -/
theorem ReadsPart.outside {s rest : List Char} {p : Part} (h : ReadsPart s p rest)
    (hrest : rest ≠ []) (hsteady : p.steady) :
    p.source.foldl Place.next .outside = .outside := by
  cases h with
  | literal content rest hinside =>
      rw [Part.source, List.foldl_cons, List.foldl_append, Place.next, if_pos rfl, hinside]
      rfl
  | unclosed content => exact absurd rfl hrest
  | line more => exact hsteady
  | block more => exact hsteady
  | live c rest hc _ _ =>
      rw [Part.source, List.foldl_cons, Place.next, if_neg hc]
      rfl

/-- Steady comments leave the scan outside literals wherever the parts before end. -/
theorem outside_of_steady {s : List Char} {before after : List Part}
    (heq : escapedLex s = before ++ .live ';' :: after) (h : ∀ p ∈ before, p.steady) :
    ∃ pre post, s = pre ++ ';' :: post ∧ pre.foldl Place.next .outside = .outside ∧
      escapedLex post = after := by
  induction before generalizing s with
  | nil =>
      rcases escapedLex_cons heq with ⟨rest, hreads, hrest⟩
      exact ⟨[], rest, hreads.append, rfl, hrest⟩
  | cons p ps ih =>
      rcases escapedLex_cons heq with ⟨rest, hreads, hrest⟩
      rcases ih hrest (fun q hq => h q (List.mem_cons_of_mem p hq)) with
        ⟨pre, post, hs, hout, hafter⟩
      -- The semicolon is still to come, so the part is not the last one.
      have hne : rest ≠ [] := by
        rw [hs]
        simp
      refine ⟨p.source ++ pre, post, ?_, ?_, hafter⟩
      · rw [hreads.append, hs, List.append_assoc]
      · rw [List.foldl_append, hreads.outside hne (h p List.mem_cons_self), hout]

/-! ### The reading that knows no escapes -/

/-- A step that meets no escaped apostrophe is a step of the reading without escapes. -/
theorem ReadsPart.lex_step {s rest : List Char} {p : Part} (h : ReadsPart s p rest)
    (hrest : rest ≠ []) (hfree : ∀ c ∈ s, c ≠ '"' ∧ c ≠ '[') (hp : p.unescaped) :
    ∃ l, lex s = l :: lex rest := by
  cases h with
  | literal content rest _ =>
      exact ⟨_, lex_run (show QuoteKind.single.closing ∉ content from hp) rest⟩
  | unclosed content => exact absurd rfl hrest
  | line more => exact ⟨_, lex_line more⟩
  | block more => exact ⟨_, lex_block more⟩
  | live c rest hc hline hblock =>
      refine ⟨_, lex_live ?_ hline hblock⟩
      have hne := hfree c List.mem_cons_self
      rw [QuoteKind.ofChar?, if_neg hc, if_neg hne.1, if_neg hne.2]

/-- Unescaped literals are read alike with and without escapes, so a semicolon behind
    them is live in both readings. -/
theorem lex_of_unescaped {s : List Char} {before after : List Part}
    (heq : escapedLex s = before ++ .live ';' :: after)
    (hfree : ∀ c ∈ s, c ≠ '"' ∧ c ≠ '[') (h : ∀ p ∈ before, p.unescaped) :
    ∃ lexemes post, lex s = lexemes ++ .live ';' :: lex post ∧ escapedLex post = after := by
  induction before generalizing s with
  | nil =>
      rcases escapedLex_cons heq with ⟨rest, hreads, hrest⟩
      refine ⟨[], rest, ?_, hrest⟩
      rw [hreads.append]
      exact lex_live rfl (fun _ hc => absurd hc (by decide)) (fun _ hc => absurd hc (by decide))
  | cons p ps ih =>
      rcases escapedLex_cons heq with ⟨rest, hreads, hrest⟩
      have hsub : ∀ c ∈ rest, c ≠ '"' ∧ c ≠ '[' := by
        intro c hc
        refine hfree c ?_
        rw [hreads.append]
        exact List.mem_append_right _ hc
      rcases ih hrest hsub (fun q hq => h q (List.mem_cons_of_mem p hq)) with
        ⟨lexemes, post, hlex, hafter⟩
      have hne : rest ≠ [] := by
        rintro rfl
        exact absurd hrest (by simp [escapedLex])
      rcases hreads.lex_step hne hfree (h p List.mem_cons_self) with ⟨l, hl⟩
      exact ⟨l :: lexemes, post, by rw [hl, hlex, List.cons_append], hafter⟩

/-- What is idle without escapes is idle with them: it holds no literal. -/
theorem idle_of_lex {s : List Char} (h : ∀ l ∈ lex s, l.idle) : ∀ p ∈ escapedLex s, p.idle := by
  fun_induction lex s with
  | case1 => simp [escapedLex]
  | case2 rest kind content after hbreak _ ih => exact absurd (h _ List.mem_cons_self) id
  | case3 c rest kind hkind hbreak ih =>
      -- A quote mark that is live is not idle.
      have hc := h _ List.mem_cons_self
      rw [QuoteKind.opening_of_ofChar? hkind] at hc
      cases kind <;> exact absurd hc (by simp [Lexeme.idle, QuoteKind.opening]; decide)
  | case4 more _ _ ih =>
      rw [List.forall_mem_cons] at h
      rw [escapedLex, List.forall_mem_cons]
      exact ⟨trivial, ih h.2⟩
  | case5 more _ _ ih =>
      rw [List.forall_mem_cons] at h
      rw [escapedLex, List.forall_mem_cons]
      exact ⟨trivial, ih h.2⟩
  | case6 c rest hline hblock hnone ih =>
      have hquote : c ≠ '\'' := by
        rintro rfl
        exact absurd hnone (by decide)
      rw [List.forall_mem_cons] at h
      rw [escapedLex, List.forall_mem_cons]
      · exact ⟨h.1, ih h.2⟩
      · exact fun hc => hquote hc
      · exact hline
      · exact hblock

/-- Nothing follows a semicolon of an allowed query, in the reading with escapes, when
    the comments before it are steady or the literals before it are unescaped. -/
theorem idle_after_escaped_semicolon {t : List Char} {before after : List Part}
    (h : verdict t = none) (hfree : ∀ c ∈ t, c ≠ '"' ∧ c ≠ '[')
    (heq : escapedLex t = before ++ .live ';' :: after)
    (hbefore : (∀ p ∈ before, p.steady) ∨ ∀ p ∈ before, p.unescaped) :
    ∀ p ∈ after, p.idle := by
  rcases hbefore with hsteady | hunescaped
  · -- The scan finds the semicolon, so it is the last mark of the text.
    rcases outside_of_steady heq hsteady with ⟨pre, post, ht, hout, hafter⟩
    have hstacked := (semicolons_of_verdict h).1
    rw [ht] at hstacked
    rw [← hafter]
    exact idle_of_blank (blank_of_stackedSemicolon hstacked hout)
  · -- The view finds it, so nothing but idle lexemes follows, and they are read alike.
    rcases lex_of_unescaped heq hfree hunescaped with ⟨lexemes, post, hlex, hafter⟩
    have hsingle := singleStatement_of_verdict h (marksStayInside_of_single hfree)
    rw [← hafter]
    exact idle_of_lex (hsingle lexemes _ hlex)

/-- An apostrophe in a comment hides the semicolon from the scan, and no literal before
    it hides it from the view. An escaped apostrophe hides a semicolon from the view, and
    no comment before it hides it from the scan. -/
theorem idle_after_unescaped_literal :
    (verdict "SELECT 'a' /*'*/ ; -- end".toList = none ∧
      ∃ before after, escapedLex "SELECT 'a' /*'*/ ; -- end".toList =
        before ++ .live ';' :: after ∧ after.length = 2 ∧ ∀ p ∈ after, p.idle) ∧
    verdict "SELECT 'it\\'s' /* a */ ;  ".toList = none ∧
      ∃ before after, escapedLex "SELECT 'it\\'s' /* a */ ;  ".toList =
        before ++ .live ';' :: after ∧ (∃ p ∈ before, ¬p.unescaped) ∧ after.length = 2 ∧
          ∀ p ∈ after, p.idle := by
  have hverdict : verdict "SELECT 'a' /*'*/ ; -- end".toList = none := by
    decide +kernel
  have heq : escapedLex "SELECT 'a' /*'*/ ; -- end".toList =
      (escapedLex "SELECT 'a' /*'*/ ; -- end".toList).take 11 ++ .live ';' ::
        (escapedLex "SELECT 'a' /*'*/ ; -- end".toList).drop 12 := by
    decide +kernel
  have hfree : ("SELECT 'a' /*'*/ ; -- end".toList.all fun c => c ≠ '"' ∧ c ≠ '[') = true := by
    decide +kernel
  have hescaped : verdict "SELECT 'it\\'s' /* a */ ;  ".toList = none := by
    decide +kernel
  have hparts : escapedLex "SELECT 'it\\'s' /* a */ ;  ".toList =
      (escapedLex "SELECT 'it\\'s' /* a */ ;  ".toList).take 11 ++ .live ';' ::
        (escapedLex "SELECT 'it\\'s' /* a */ ;  ".toList).drop 12 := by
    decide +kernel
  have hplain : ("SELECT 'it\\'s' /* a */ ;  ".toList.all fun c => c ≠ '"' ∧ c ≠ '[') = true := by
    decide +kernel
  have hunquoted : ∀ p ∈ (escapedLex "SELECT 'it\\'s' /* a */ ;  ".toList).take 11,
      p.unquoted := by
    decide +kernel
  refine ⟨⟨hverdict, _, _, heq, by decide +kernel, ?_⟩, hescaped, _, _, hparts,
    by decide +kernel, by decide +kernel, ?_⟩
  · exact idle_after_escaped_semicolon hverdict
      (fun c hc => of_decide_eq_true (List.all_eq_true.mp hfree c hc)) heq
      (Or.inr (by decide +kernel))
  · exact idle_after_escaped_semicolon hescaped
      (fun c hc => of_decide_eq_true (List.all_eq_true.mp hplain c hc)) hparts
      (Or.inl fun p hp => Part.steady_of_unquoted (hunquoted p hp))

/-- An escaped apostrophe hides the semicolon from the view, and the apostrophe in the
    comment behind it hides it from the scan. -/
theorem escape_then_comment_hides_statement :
    verdict "SELECT '\\'' /*'\\'*/ ; DROP TABLE x --'".toList = none ∧
      (∀ c ∈ "SELECT '\\'' /*'\\'*/ ; DROP TABLE x --'".toList,
        c ≠ '"' ∧ c ≠ '[' ∧ c ≠ ']' ∧ c ≠ '\x60') ∧
      ∃ before after, escapedLex "SELECT '\\'' /*'\\'*/ ; DROP TABLE x --'".toList =
        before ++ .live ';' :: after ∧ ∃ p ∈ after, ¬p.idle := by
  have heq : escapedLex "SELECT '\\'' /*'\\'*/ ; DROP TABLE x --'".toList =
      (escapedLex "SELECT '\\'' /*'\\'*/ ; DROP TABLE x --'".toList).take 11 ++ .live ';' ::
        (escapedLex "SELECT '\\'' /*'\\'*/ ; DROP TABLE x --'".toList).drop 12 := by
    decide +kernel
  have hfree : ("SELECT '\\'' /*'\\'*/ ; DROP TABLE x --'".toList.all fun c =>
      c ≠ '"' ∧ c ≠ '[' ∧ c ≠ ']' ∧ c ≠ '\x60') = true := by
    decide +kernel
  refine ⟨by decide +kernel, fun c hc => of_decide_eq_true (List.all_eq_true.mp hfree c hc), _, _,
    heq, .live 'D', by decide +kernel, ?_⟩
  rintro (hblank | hsemicolon)
  · exact absurd hblank (by decide)
  · exact absurd hsemicolon (by decide)

end Gate

end SqlCatalog
