import SqlCatalog.Proofs.Gate.LiveText
import SqlCatalog.Proofs.Gate.Words

/-!
# What an Allowed Query Says

A query that the gate lets pass has no forbidden word in its live text and is a single
statement, when its marks stay inside their runs.

The gate looks at a view that was normalised first and emptied afterwards. With the
two turned round the view is the normal form of the live text, and what the checks
found missing in the one is missing in the other: words by `wordsOf_upper_squeeze`,
and what follows a semicolon by `blank_or_semicolon_of_normal`.

The condition cannot be dropped. An apostrophe in a quoted name is closed by an
apostrophe in the next one as far as the passes are concerned, and they take everything
between the two for a literal. `leaking_runs_hide_statement` has queries that pass and
drop a table.

## Main definitions

* `WordRule.forbids`: Whether a rule objects to a word.
* `Lexeme.idle`: Comments, blanks and semicolons.
* `SingleStatement`: Nothing but idle lexemes after a semicolon.
* `ReadsOnly`: What the gate promises about the live text.

## Theorems

* `search_eq_none_of_words`: Texts with the same words pass the same rules.
* `singleStatement_of_verdict`: An allowed query is a single statement.
* `readsOnly_of_verdict`: An allowed query only reads.
-/

namespace SqlCatalog

namespace Gate

/-! ### Rules and words -/

/-- Whether the rule objects to a word, whatever stands around it. -/
def WordRule.forbids (r : WordRule) (w : List Char) : Bool :=
  r.hasStem w || r.words.contains (String.ofList w)

theorem matchAt_word {r : WordRule} {w : List Char} (h : r.forbids w = true)
    (rest : List Segment) : r.matchAt (.word w :: rest) = some w := by
  unfold WordRule.matchAt
  exact if_pos h

/-- A rule that finds nothing objects to none of the words. -/
theorem forbids_eq_false_of_search {r : WordRule} {s : List Char} (h : r.search s = none) :
    ∀ w ∈ wordsOf s, r.forbids w = false := by
  rw [WordRule.search] at h
  rw [wordsOf]
  generalize segments s = gs at h
  induction gs with
  | nil => simp
  | cons g rest ih =>
      simp only [WordRule.searchSegments, Option.or_eq_none_iff] at h
      intro w hw
      cases g with
      | mark c => exact ih h.2 w hw
      | word v =>
          rcases List.mem_cons.mp hw with rfl | hw
          · rw [Bool.eq_false_iff]
            intro hf
            rw [matchAt_word hf] at h
            exact absurd h.1 (by simp)
          · exact ih h.2 w hw

/-- A rule finds nothing when it objects to none of the words and the second word of
    its phrase is not there. -/
theorem search_eq_none {r : WordRule} {s : List Char}
    (hwords : ∀ w ∈ wordsOf s, r.forbids w = false)
    (hphrase : ∀ first second, r.phrase = some (first, second) → second.toList ∉ wordsOf s) :
    r.search s = none := by
  rw [WordRule.search]
  rw [wordsOf] at hwords
  simp only [wordsOf] at hphrase
  generalize segments s = gs at hwords hphrase
  induction gs with
  | nil => rfl
  | cons g rest ih =>
      have hsub : ∀ w ∈ rest.filterMap Segment.word?, w ∈ (g :: rest).filterMap Segment.word? :=
        fun _ hw => ((List.sublist_cons_self g rest).filterMap _).subset hw
      have hrest : r.searchSegments rest = none :=
        ih (fun w hw => hwords w (hsub w hw))
          (fun first second hp hmem => hphrase first second hp (hsub _ hmem))
      -- Nothing is found later, so only a match right here is left to rule out.
      simp only [WordRule.searchSegments, hrest, Option.or_none]
      unfold WordRule.matchAt
      split
      · rename_i w more heq
        rw [List.cons.injEq] at heq
        rcases heq with ⟨rfl, rfl⟩
        have hw : r.forbids w = false := hwords w List.mem_cons_self
        rw [if_neg (by rw [← WordRule.forbids, hw]; decide)]
        split
        · rename_i first second v tail hp
          refine if_neg fun hboth => hphrase first second hp ?_
          simp only [Bool.and_eq_true, decide_eq_true_eq] at hboth
          rw [← hboth.2]
          simp [Segment.word?]
        · rfl
      · rfl

/-- The rules that mention a phrase leave its second word to another rule. -/
theorem phrase_forbidden : ∀ r ∈ forbidden, ∀ first second, r.phrase = some (first, second) →
    ∃ r' ∈ forbidden, r'.forbids second.toList = true := by
  have h : (forbidden.all fun r => r.phrase.all fun p =>
      forbidden.any (·.forbids p.2.toList)) = true := by
    decide +kernel
  intro r hr first second hp
  have hall := List.all_eq_true.mp h r hr
  rw [hp] at hall
  simpa only [Option.all_some, List.any_eq_true] using hall

/-- Texts with the same words pass the same rules. -/
theorem search_eq_none_of_words {s t : List Char} (hwords : wordsOf s = wordsOf t)
    (h : ∀ r ∈ forbidden, r.search s = none) : ∀ r ∈ forbidden, r.search t = none := by
  intro r hr
  refine search_eq_none (hwords ▸ forbids_eq_false_of_search (h r hr)) ?_
  intro first second hp hmem
  rcases phrase_forbidden r hr first second hp with ⟨r', hr', hf⟩
  rw [← hwords] at hmem
  rw [forbids_eq_false_of_search (h r' hr') _ hmem] at hf
  exact absurd hf (by decide)

theorem timing_eq_none_of_words {s t : List Char} (hwords : wordsOf s = wordsOf t)
    (h : timing.search s = none) : timing.search t = none :=
  search_eq_none (hwords ▸ forbids_eq_false_of_search h)
    (fun _ _ hp => absurd hp (by simp [timing, WordRule.ofWords]))

/-! ### What the checks let pass -/

theorem check_eq_none {t : List Char} (h : verdict t = none) (check : Check)
    (hc : check ∈ checks) : check (Candidate.ofText t) = none :=
  List.findSome?_eq_none_iff.mp h check hc

/-- An allowed query is neither blank nor too long, so the checks did look at it. -/
theorem view_of_verdict {t : List Char} (h : verdict t = none) :
    (Candidate.ofText t).view = literalFree (normalize t) := by
  have hempty := check_eq_none h notEmpty (by simp [checks])
  have hlong := check_eq_none h notTooLong (by simp [checks])
  have hblank : Text.allBlank t = false := by
    by_cases hb : Text.allBlank t = true
    · simp [notEmpty, Candidate.ofText, hb] at hempty
    · simpa using hb
  have hlength : t.length ≤ maxLength := by
    by_cases hl : t.length > maxLength
    · simp [notTooLong, Candidate.ofText, hl] at hlong
    · omega
  simp [Candidate.ofText, hblank, hlength]

theorem forbidden_of_verdict {t : List Char} (h : verdict t = none) :
    ∀ r ∈ forbidden, r.search (literalFree (normalize t)) = none := by
  have hcheck := check_eq_none h noForbiddenWord (by simp [checks])
  rw [noForbiddenWord, List.findSome?_eq_none_iff] at hcheck
  intro r hr
  have hsearch := hcheck r hr
  rwa [Option.map_eq_none_iff, view_of_verdict h] at hsearch

theorem timing_of_verdict {t : List Char} (h : verdict t = none) :
    timing.search (literalFree (normalize t)) = none := by
  have hcheck := check_eq_none h noTiming (by simp [checks])
  rwa [noTiming, Option.map_eq_none_iff, view_of_verdict h] at hcheck

/-- Neither scan of an allowed query finds a semicolon between two statements. -/
theorem semicolons_of_verdict {t : List Char} (h : verdict t = none) :
    stackedSemicolon? t = none ∧ ';' ∉ withoutLastSemicolons (literalFree (normalize t)) := by
  have hcheck := check_eq_none h singleStatement (by simp [checks])
  rw [singleStatement, view_of_verdict h] at hcheck
  split at hcheck
  · exact absurd hcheck (by simp)
  · rename_i hnone
    simp only [Bool.or_eq_true, not_or, Bool.not_eq_true, Option.isSome_eq_false_iff,
      Option.isNone_iff_eq_none] at hnone
    refine ⟨hnone.1, fun hmem => ?_⟩
    have hcontains := List.contains_iff_mem.mpr hmem
    rw [show (Candidate.ofText t).text = t from rfl] at hnone
    rw [hnone.2] at hcontains
    exact absurd hcontains (by decide)

/-! ### The live text of an allowed query -/

/-- Comments, blanks and semicolons: nothing that a statement could begin with. -/
def Lexeme.idle : Lexeme → Prop
  | .run _ _ => False
  | .comment _ => True
  | .live c => Text.isBlank c = true ∨ c = ';'

/-- Only comments, blanks and semicolons follow a live semicolon. -/
def SingleStatement (ls : List Lexeme) : Prop :=
  ∀ before after, ls = before ++ .live ';' :: after → ∀ l ∈ after, l.idle

/-- What the gate promises about the live text of a query: no rule about words finds
    anything in it, and it is a single statement. -/
structure ReadsOnly (t : List Char) : Prop where
  noForbiddenWord : ∀ r ∈ forbidden, r.search (collapse (Text.upper (liveText t))) = none
  noTiming : timing.search (collapse (Text.upper (liveText t))) = none
  singleStatement : SingleStatement (lex t)

/-- The view is the normal form of the live text. -/
theorem view_eq_of_marksStayInside {t : List Char} (hm : MarksStayInside t) :
    literalFree (normalize t) = Text.upper (squeeze (liveText t)) := by
  rw [normalize_eq, literalFree_upper_squeeze, literalFree_withoutComments hm]

theorem wordsOf_view {t : List Char} (hm : MarksStayInside t) :
    wordsOf (literalFree (normalize t)) = wordsOf (collapse (Text.upper (liveText t))) := by
  rw [view_eq_of_marksStayInside hm, wordsOf_upper_squeeze, wordsOf_collapse_upper]

/-- A lexeme whose emptied text is blank or a semicolon is idle. -/
theorem Lexeme.idle_of_emptied {l : Lexeme}
    (h : ∀ c ∈ l.emptied, Text.isBlank c = true ∨ c = ';') : l.idle := by
  cases l with
  | comment s => trivial
  | live c => exact h c (List.mem_singleton_self c)
  | run kind content =>
      have hopening := h kind.opening List.mem_cons_self
      cases kind <;> exact absurd hopening (by decide)

/-- An allowed query is a single statement. -/
theorem singleStatement_of_verdict {t : List Char} (h : verdict t = none)
    (hm : MarksStayInside t) : SingleStatement (lex t) := by
  intro before after heq l hl
  have hlive : liveText t =
      before.flatMap Lexeme.emptied ++ ';' :: after.flatMap Lexeme.emptied := by
    rw [liveText, heq, List.flatMap_append, List.flatMap_cons]
    rfl
  have hsemi := (semicolons_of_verdict h).2
  rw [view_eq_of_marksStayInside hm, hlive] at hsemi
  have hall := blank_or_semicolon_of_normal hsemi
  exact Lexeme.idle_of_emptied fun c hc => hall c (List.mem_flatMap.mpr ⟨l, hl, hc⟩)

/-- An allowed query only reads, when its marks stay inside their runs. -/
theorem readsOnly_of_verdict {t : List Char} (h : verdict t = none) (hm : MarksStayInside t) :
    ReadsOnly t where
  noForbiddenWord := search_eq_none_of_words (wordsOf_view hm) (forbidden_of_verdict h)
  noTiming := timing_eq_none_of_words (wordsOf_view hm) (timing_of_verdict h)
  singleStatement := singleStatement_of_verdict h hm

/-- A quoted name may hold a lone apostrophe. -/
theorem readsOnly_possessive_name :
    verdict "SELECT id FROM \"o'neil\" ; -- DROP".toList = none ∧
      MarksStayInside "SELECT id FROM \"o'neil\" ; -- DROP".toList ∧
      ReadsOnly "SELECT id FROM \"o'neil\" ; -- DROP".toList :=
  have hverdict : verdict "SELECT id FROM \"o'neil\" ; -- DROP".toList = none := by
    decide +kernel
  have hinside : MarksStayInside "SELECT id FROM \"o'neil\" ; -- DROP".toList := by
    decide +kernel
  ⟨hverdict, hinside, readsOnly_of_verdict hverdict hinside⟩

/-- Two quoted names with an apostrophe each hide the statement between them, and two
    bracketed names with a double quote each hide a word. -/
theorem leaking_runs_hide_statement :
    (verdict "SELECT \"'\"; DROP TABLE t; \"'\"".toList = none ∧
      ¬ReadsOnly "SELECT \"'\"; DROP TABLE t; \"'\"".toList) ∧
    (verdict "SELECT [\"] , DROP TABLE t , [\"]".toList = none ∧
      ¬ReadsOnly "SELECT [\"] , DROP TABLE t , [\"]".toList) := by
  have hfound {t : List Char}
      (h : (forbidden.any fun r => (r.search (collapse (Text.upper (liveText t)))).isSome) =
        true) : ¬ReadsOnly t := by
    intro hreads
    rcases List.any_eq_true.mp h with ⟨r, hr, hsome⟩
    rw [hreads.noForbiddenWord r hr] at hsome
    exact absurd hsome (by decide)
  exact ⟨⟨by decide +kernel, hfound (by decide +kernel)⟩,
    by decide +kernel, hfound (by decide +kernel)⟩

end Gate

end SqlCatalog
