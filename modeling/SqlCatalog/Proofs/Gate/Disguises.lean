import SqlCatalog.Proofs.Gate.LiteralContent
import SqlCatalog.Proofs.Gate.Separators
import SqlCatalog.Proofs.Gate.Uncommented

/-!
# Disguises of a Query

A query can be spelled in many ways: with comments or line breaks between its words, and with
letters in either case. None of this changes what a database makes of it, so none of it may
change what the gate makes of it.

For spacing and comments this is a matter of the normal form alone. Letter case is less plain.
The normal form is in upper case, but that is its last step, and the verdict also rests on the
text as the caller wrote it: its length, its semicolons, its control characters. Every step
before the last therefore has to go through in the same way for both spellings, and so do the
checks of the text. What they look at are marks and blanks, and a letter in either case is none
of these. So a step may be taken on the text in ASCII capitals in place of the text, and two
texts that differ in the case of ASCII letters only are one text in capitals.

## Main definitions

* `IsLetter`: What has a capital of its own.
* `Lexeme.capital`: A lexeme in ASCII capitals.

## Theorems

* `ordinary_of_isLetter`: The gate takes no letter for anything that it looks at.
* `apply_toUpper`: What is false of all letters does not see their case.
* `lex_map_toUpper`: A text in capitals is read as the text is.
* `normalize_map_toUpper`: It has the same normal form.
* `sameAnswers_map_toUpper`: The checks cannot tell the two.
* `disguises_seen_through`: Neither separators nor letter case disguise a query.
-/

namespace SqlCatalog

namespace Gate

/-! ### Letters in either case -/

/-- An ASCII letter. -/
def IsLetter (c : Char) : Prop :=
  c.toNat < 0x80 ∧ c.isAlpha = true

/-- Only letters have a capital of their own, and it is a letter. -/
theorem toUpper_cases (c : Char) : c.toUpper = c ∨ (IsLetter c ∧ IsLetter c.toUpper) := by
  by_cases hascii : c.toNat < 0x80
  · exact of_ascii (P := fun c => c.toUpper = c ∨ ((c.toNat < 0x80 ∧ c.isAlpha = true) ∧
      c.toUpper.toNat < 0x80 ∧ c.toUpper.isAlpha = true)) (by decide +kernel) hascii
  · left
    refine dif_neg fun hsmall => hascii ?_
    have hle : c.toNat ≤ 'z'.toNat := UInt32.le_iff_toNat_le.mp hsmall.2
    exact Nat.lt_of_le_of_lt hle (by decide)

/-- The gate takes no letter for a blank, a mark that is set tight, the end of a line or a control
    character. -/
theorem ordinary_of_isLetter {c : Char} (h : IsLetter c) :
    Text.isBlank c = false ∧ isTight c = false ∧ isLineEnd c = false ∧ isStrayControl c = false :=
  of_ascii (P := fun c => c.isAlpha = true → Text.isBlank c = false ∧ isTight c = false ∧
    isLineEnd c = false ∧ isStrayControl c = false) (by decide +kernel) h.1 h.2

/-- What is false of all letters does not see their case. -/
theorem apply_toUpper {P : Char → Bool} (h : ∀ {d : Char}, IsLetter d → P d = false) (c : Char) :
    P c.toUpper = P c := by
  rcases toUpper_cases c with hsame | ⟨hc, hcapital⟩
  · rw [hsame]
  · rw [h hc, h hcapital]

theorem toUpper_eq_iff {c m : Char} (hm : m.isAlpha = false) : c.toUpper = m ↔ c = m := by
  have hne {d : Char} (hd : IsLetter d) : d ≠ m := by
    rintro rfl
    exact absurd hd.2 (hm ▸ Bool.false_ne_true)
  rcases toUpper_cases c with hsame | ⟨hc, hcapital⟩
  · rw [hsame]
  · exact iff_of_false (hne hcapital) (hne hc)

theorem isBlank_toUpper (c : Char) : Text.isBlank c.toUpper = Text.isBlank c :=
  apply_toUpper (fun h => (ordinary_of_isLetter h).1) c

theorem isTight_toUpper (c : Char) : isTight c.toUpper = isTight c :=
  apply_toUpper (fun h => (ordinary_of_isLetter h).2.1) c

theorem isLineEnd_toUpper (c : Char) : isLineEnd c.toUpper = isLineEnd c :=
  apply_toUpper (fun h => (ordinary_of_isLetter h).2.2.1) c

theorem isStrayControl_toUpper (c : Char) : isStrayControl c.toUpper = isStrayControl c :=
  apply_toUpper (fun h => (ordinary_of_isLetter h).2.2.2) c

theorem mem_map_toUpper {m : Char} (hm : m.isAlpha = false) (s : List Char) :
    m ∈ s.map Char.toUpper ↔ m ∈ s := by
  simp [List.mem_map, toUpper_eq_iff hm]

/-- A mark at the head of a text in capitals is at the head of the text. -/
theorem exists_of_map_toUpper {m : Char} (hm : m.isAlpha = false) {s more : List Char}
    (h : s.map Char.toUpper = m :: more) : ∃ rest, s = m :: rest := by
  obtain ⟨c, rest, rfl, hc, -⟩ := List.map_eq_cons_iff.mp h
  exact ⟨rest, congrArg (· :: rest) ((toUpper_eq_iff hm).mp hc)⟩

theorem isAlpha_opening (kind : QuoteKind) : kind.opening.isAlpha = false := by
  cases kind <;> decide

theorem isAlpha_closing (kind : QuoteKind) : kind.closing.isAlpha = false := by
  cases kind <;> decide

/-! ### Reading -/

/-- A lexeme in ASCII capitals. -/
def Lexeme.capital : Lexeme → Lexeme
  | .run kind content => .run kind (content.map Char.toUpper)
  | .comment source => .comment (source.map Char.toUpper)
  | .live c => .live c.toUpper

theorem breakComment_map_toUpper (s : List Char) :
    breakComment (s.map Char.toUpper) =
      ((breakComment s).1.map Char.toUpper, (breakComment s).2.map Char.toUpper) := by
  fun_induction breakComment s with
  | case1 => rfl
  | case2 rest => rfl
  | case3 c rest hopen comment after hbreak ih =>
      rw [hbreak] at ih
      rw [List.map_cons, breakComment, ih]
      · rfl
      · intro more hstar hslash
        obtain ⟨tail, rfl⟩ := exists_of_map_toUpper (by decide) hslash
        exact hopen tail ((toUpper_eq_iff (by decide)).mp hstar) rfl

theorem ofChar?_toUpper (c : Char) : QuoteKind.ofChar? c.toUpper = QuoteKind.ofChar? c := by
  have hmark {m : Char} (hm : m.isAlpha = false) : (c.toUpper = m) = (c = m) :=
    propext (toUpper_eq_iff hm)
  simp only [QuoteKind.ofChar?, hmark (show '\''.isAlpha = false by decide),
    hmark (show '"'.isAlpha = false by decide), hmark (show '['.isAlpha = false by decide)]

/-- A text in capitals is read as the text is. -/
theorem lex_map_toUpper (s : List Char) :
    lex (s.map Char.toUpper) = (lex s).map Lexeme.capital := by
  -- The reading goes by quote marks, comment marks and line ends, and none of them is a letter.
  have hline : (fun c => !isLineEnd c) ∘ Char.toUpper = fun c => !isLineEnd c :=
    funext fun c => congrArg (!·) (isLineEnd_toUpper c)
  have hopen (kind : QuoteKind) : kind.opening.toUpper = kind.opening :=
    (toUpper_eq_iff (isAlpha_opening kind)).mpr rfl
  have hclose (kind : QuoteKind) : kind.closing.toUpper = kind.closing :=
    (toUpper_eq_iff (isAlpha_closing kind)).mpr rfl
  fun_induction lex s with
  | case1 => rw [List.map_nil, List.map_nil, lex]
  | case2 c rest kind hkind content after hbreak _ ih =>
      have hfree : kind.closing ∉ content.map Char.toUpper := by
        rw [mem_map_toUpper (isAlpha_closing kind)]
        exact not_mem_of_breakAt hbreak
      rw [QuoteKind.opening_of_ofChar? hkind, eq_append_of_breakAt hbreak, List.map_cons,
        List.map_append, List.map_cons, hopen, hclose, lex_run hfree, ih]
      rfl
  | case3 c rest kind hkind hbreak ih =>
      have hfree : kind.closing ∉ rest.map Char.toUpper := by
        rw [mem_map_toUpper (isAlpha_closing kind)]
        exact not_mem_of_breakAt_none hbreak
      rw [QuoteKind.opening_of_ofChar? hkind, List.map_cons, hopen, lex_unclosed hfree, ih,
        List.map_cons, Lexeme.capital, hopen]
  | case4 more _ _ ih =>
      have hdash : '-'.toUpper = '-' := by decide
      rw [List.map_cons, List.map_cons, hdash, lex_line, List.takeWhile_map, List.dropWhile_map,
        hline, ih]
      rfl
  | case5 more _ _ ih =>
      have hslash : '/'.toUpper = '/' := by decide
      have hstar : '*'.toUpper = '*' := by decide
      rw [List.map_cons, List.map_cons, hslash, hstar, lex_block, breakComment_map_toUpper, ih]
      rfl
  | case6 c rest hline hblock hnone ih =>
      rw [List.map_cons, lex_live (by rw [ofChar?_toUpper, hnone]), ih, List.map_cons,
        Lexeme.capital]
      · intro more hdash hnext
        obtain ⟨tail, rfl⟩ := exists_of_map_toUpper (by decide) hnext
        exact hline tail ((toUpper_eq_iff (by decide)).mp hdash) rfl
      · intro more hslash hnext
        obtain ⟨tail, rfl⟩ := exists_of_map_toUpper (by decide) hnext
        exact hblock tail ((toUpper_eq_iff (by decide)).mp hslash) rfl

/-! ### The normal form -/

theorem withoutComments_map_toUpper (s : List Char) :
    withoutComments (s.map Char.toUpper) = (withoutComments s).map Char.toUpper := by
  have hlexeme (l : Lexeme) : l.capital.uncommented = l.uncommented.map Char.toUpper := by
    cases l with
    | comment source => rfl
    | live c => rfl
    | run kind content =>
        have hopen := (toUpper_eq_iff (c := kind.opening) (isAlpha_opening kind)).mpr rfl
        have hclose := (toUpper_eq_iff (c := kind.closing) (isAlpha_closing kind)).mpr rfl
        simp [Lexeme.capital, Lexeme.uncommented, Lexeme.source, hopen, hclose]
  simp only [withoutComments, lex_map_toUpper, List.flatMap_map, List.map_flatMap, hlexeme]

theorem collapseFrom_map_toUpper (b : Bool) (s : List Char) :
    collapseFrom b (s.map Char.toUpper) = (collapseFrom b s).map Char.toUpper := by
  induction s generalizing b with
  | nil => rfl
  | cons c rest ih =>
      simp only [List.map_cons, collapseFrom, isBlank_toUpper, ih]
      split
      · split <;> rfl
      · rfl

theorem dropBlanks_map_toUpper (s : List Char) :
    (s.map Char.toUpper).dropWhile Text.isBlank =
      (s.dropWhile Text.isBlank).map Char.toUpper := by
  have hblank : Text.isBlank ∘ Char.toUpper = Text.isBlank := funext isBlank_toUpper
  rw [List.dropWhile_map, hblank]

theorem trimEnd_map_toUpper (s : List Char) :
    Text.trimEnd (s.map Char.toUpper) = (Text.trimEnd s).map Char.toUpper := by
  rw [Text.trimEnd, ← List.map_reverse, dropBlanks_map_toUpper, ← List.map_reverse, Text.trimEnd]

theorem tightenFrom_map_toUpper (b : Bool) (s : List Char) :
    tightenFrom b (s.map Char.toUpper) = (tightenFrom b s).map Char.toUpper := by
  have hspace (c : Char) : (c.toUpper = ' ') = (c = ' ') := propext (toUpper_eq_iff (by decide))
  have htight (rest : List Char) :
      (rest.map Char.toUpper).head?.any isTight = rest.head?.any isTight := by
    cases rest with
    | nil => rfl
    | cons d more => exact isTight_toUpper d
  induction s generalizing b with
  | nil => rfl
  | cons c rest ih =>
      simp only [List.map_cons, tightenFrom, hspace, htight, isTight_toUpper, ih]
      split <;> rfl

theorem upper_map_toUpper (s : List Char) : Text.upper (s.map Char.toUpper) = Text.upper s := by
  have hchar (c : Char) : Text.upperChar c.toUpper = Text.upperChar c := by
    by_cases hascii : c.toNat < 0x80
    · rcases Text.toUpper_ascii hascii with hsame | ⟨-, -, -, hhi, htwice⟩
      · rw [hsame]
      · rw [Text.upperChar_ascii hascii, Text.upperChar_ascii (by omega), htwice]
    · rcases toUpper_cases c with hsame | ⟨hletter, -⟩
      · rw [hsame]
      · exact absurd hletter.1 hascii
  simp only [Text.upper, List.flatMap_map, hchar]

/-- A text in capitals has the normal form of the text. -/
theorem normalize_map_toUpper (s : List Char) : normalize (s.map Char.toUpper) = normalize s := by
  simp only [normalize, withoutComments_map_toUpper, collapse, collapseFrom_map_toUpper,
    Text.trim, dropBlanks_map_toUpper, trimEnd_map_toUpper, tighten, tightenFrom_map_toUpper,
    upper_map_toUpper]

/-! ### The verdict -/

theorem stackedFrom_map_toUpper (size index : Nat) (place : Place) (s : List Char) :
    stackedFrom size place index (s.map Char.toUpper) = stackedFrom size place index s := by
  have hsemicolon (c : Char) : (c.toUpper = ';') = (c = ';') :=
    propext (toUpper_eq_iff (by decide))
  have hquote (c : Char) : (c.toUpper = '\'') = (c = '\'') :=
    propext (toUpper_eq_iff (by decide))
  have hback (c : Char) : (c.toUpper = '\\') = (c = '\\') :=
    propext (toUpper_eq_iff (by decide))
  have hnext (place : Place) (c : Char) : place.next c.toUpper = place.next c := by
    cases place <;> simp only [Place.next, hquote, hback]
  induction s generalizing place index with
  | nil => rfl
  | cons c rest ih => simp only [List.map_cons, stackedFrom, hsemicolon, hnext, ih]

/-- The checks cannot tell a text in capitals from the text. -/
theorem sameAnswers_map_toUpper (t : List Char) :
    (Candidate.ofText (t.map Char.toUpper)).SameAnswers (Candidate.ofText t) := by
  have hblank : Text.allBlank (t.map Char.toUpper) = Text.allBlank t := by
    simp only [Text.allBlank, List.all_map, Function.comp_def, isBlank_toUpper]
  have hlength : (t.map Char.toUpper).length = t.length := List.length_map _
  have hnormal : (Candidate.ofText (t.map Char.toUpper)).normal = (Candidate.ofText t).normal := by
    simp only [Candidate.ofText, hblank, hlength, normalize_map_toUpper]
  have hstacked : stackedSemicolon? (t.map Char.toUpper) = stackedSemicolon? t := by
    rw [stackedSemicolon?, trimEnd_map_toUpper, List.length_map, stackedFrom_map_toUpper,
      stackedSemicolon?]
  constructor
  case view => exact congrArg literalFree hnormal
  case blank => exact hblank
  case long =>
    have hsame (a b : Candidate) (h : a.text.length = b.text.length) :
        notTooLong a = notTooLong b := by rw [notTooLong, notTooLong, h]
    exact hsame _ _ hlength
  case start => simp only [startsAsRead, hnormal]
  case stacked => exact congrArg Option.isSome hstacked
  case control =>
    have hpredicate : isStrayControl ∘ Char.toUpper = isStrayControl :=
      funext isStrayControl_toUpper
    change (t.map Char.toUpper).find? isStrayControl = t.find? isStrayControl
    rw [List.find?_map, hpredicate]
    rcases hfound : t.find? isStrayControl with _ | c
    · rfl
    · -- What is found is no letter.
      have hcontrol := List.find?_some hfound
      rcases toUpper_cases c with hsame | ⟨hletter, -⟩
      · exact congrArg some hsame
      · exact absurd hcontrol ((ordinary_of_isLetter hletter).2.2.2 ▸ Bool.false_ne_true)

/-- Neither separators nor letter case disguise a query. Behind a text that is read to its end
    the normal form does not depend on the separator that follows, and the verdict on a query,
    rule and reason included, does not depend on the case of its ASCII letters. -/
theorem disguises_seen_through :
    (∀ p c c' q : List Char, Complete p → Separator c → Separator c' →
      normalize (p ++ c ++ q) = normalize (p ++ c' ++ q)) ∧
    ∀ t t' : List Char, t'.map Char.toUpper = t.map Char.toUpper → verdict t' = verdict t := by
  refine ⟨fun p c c' q hp hc hc' => normalize_separator hp hc hc' q, fun t t' hsame => ?_⟩
  calc verdict t' = verdict (t'.map Char.toUpper) := (sameAnswers_map_toUpper t').verdict_eq.symm
    _ = verdict (t.map Char.toUpper) := by rw [hsame]
    _ = verdict t := (sameAnswers_map_toUpper t).verdict_eq

/-- A query that begins with a literal, a name in brackets and a comment, and a rest of it that
    is cut off inside a name. The separators hold quote marks and comment marks, and the letters
    are in mixed case. -/
theorem disguises_seen_through_malformed :
    (let p := "SELECT '--', [a\"b] /* ' */ FROM t WHERE x =".toList
      let line := '-' :: '-' :: (" it's [".toList ++ ['\n'])
      let block := '/' :: '*' :: ("' \" --".toList ++ ['*', '/'])
      let q := "1; DROP TABLE \"t".toList
      Complete p ∧ Separator line ∧ Separator block ∧
        normalize (p ++ line ++ q) = normalize (p ++ block ++ q)) ∧
    verdict "select 1; DrOp TABLE t".toList = verdict "SELECT 1; drop table T".toList := by
  refine ⟨?_, disguises_seen_through.2 _ _ (by decide)⟩
  intro p line block q
  have hread : (lex p).getLast? = some (.live '=') ∧ .live '\'' ∉ lex p ∧ .live '"' ∉ lex p ∧
      .live '[' ∉ lex p := by
    decide +kernel
  obtain ⟨hlast, hsingle, hdouble, hbracket⟩ := hread
  have hp : Complete p := by
    refine ⟨fun kind => ?_, fun source hsource => ?_, fun hdash => ?_⟩
    · cases kind with
      | single => exact hsingle
      | double => exact hdouble
      | bracket => exact hbracket
    · exact absurd (hlast.symm.trans hsource) (by simp)
    · exact absurd (hlast.symm.trans hdash) (by decide)
  have hbody : " it's [".toList.all (fun c => !isLineEnd c) = true := by decide
  have hline : Separator line :=
    .line _ _ (fun c hc => by simpa using List.all_eq_true.mp hbody c hc) (by decide)
  have hblock : Separator block := .block _ (by decide)
  exact ⟨hp, hline, hblock, disguises_seen_through.1 p line block q hp hline hblock⟩

end Gate

end SqlCatalog
