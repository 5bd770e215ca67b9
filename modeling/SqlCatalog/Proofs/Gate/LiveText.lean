import SqlCatalog.Proofs.Gate.Emptying

/-!
# The Live Text of a Query

What a query says outside its comments and literals, read in one go from left to
right. The gate comes by its view in another way. It drops the comments in one go and
then empties the runs kind by kind, three passes over a text that no longer tells
where one run ends and the next begins.

The two agree as long as every run keeps its marks to itself. The pass for one kind
also looks inside the runs of the other kinds: a mark that is opened there and is not
closed there is closed by the next such mark outside, and everything between the two
is gone. `MarksStayInside` rules this out. It allows for a run that holds a lone
apostrophe when no apostrophe follows, as in a quoted name with a possessive.

## Main definitions

* `liveText`: The text with comments as blanks and literals emptied.
* `Readable`: The lexemes are those of a reading from left to right.
* `Lexeme.leaks`: Whether a run opens a mark of another kind and does not close it.
* `Contained`: No run opens a mark that something after it closes.
* `MarksStayInside`: The same for the kinds that can get between the passes.

## Theorems

* `readable_lex`: Reading a text gives readable lexemes.
* `emptyRuns_uncommented`: One pass over a text is one pass over its lexemes.
* `literalFree_withoutComments`: The three passes give the live text.
-/

namespace SqlCatalog

namespace Gate

/-- The text of the lexeme with a comment read as a blank and a literal emptied. -/
def Lexeme.emptied : Lexeme → List Char
  | .run kind _ => [kind.opening, kind.closing]
  | .comment _ => [' ']
  | .live c => [c]

/-- The text with comments read as blanks and literals emptied, read once from left to
    right. -/
def liveText (s : List Char) : List Char :=
  (lex s).flatMap Lexeme.emptied

/-- The text of lexemes with comments read as blanks. -/
def uncommentedText (ls : List Lexeme) : List Char :=
  ls.flatMap Lexeme.uncommented

/-- The lexemes are those of a reading from left to right: no run goes past its first
    closing mark, and an opening mark is live only when no closing mark follows. -/
inductive Readable : List Lexeme → Prop
  | nil : Readable []
  | run (kind : QuoteKind) (content : List Char) (rest : List Lexeme) :
      kind.closing ∉ content → Readable rest → Readable (.run kind content :: rest)
  | comment (s : List Char) (rest : List Lexeme) :
      Readable rest → Readable (.comment s :: rest)
  | live (c : Char) (rest : List Lexeme) :
      (∀ kind : QuoteKind, c = kind.opening → kind.closing ∉ uncommentedText rest) →
      Readable rest → Readable (.live c :: rest)

theorem uncommentedText_cons (l : Lexeme) (ls : List Lexeme) :
    uncommentedText (l :: ls) = l.uncommented ++ uncommentedText ls :=
  rfl

theorem mem_source_of_mem_uncommented {m : Char} (hm : m ≠ ' ') {l : Lexeme}
    (h : m ∈ l.uncommented) : m ∈ l.source := by
  cases l with
  | run kind content => exact h
  | comment s => exact absurd (List.mem_singleton.mp h) hm
  | live c => exact h

theorem mem_of_mem_uncommentedText {m : Char} (hm : m ≠ ' ') {s : List Char}
    (h : m ∈ uncommentedText (lex s)) : m ∈ s := by
  rcases List.mem_flatMap.mp h with ⟨l, hl, hml⟩
  rw [← flatMap_source_lex s]
  exact List.mem_flatMap.mpr ⟨l, hl, mem_source_of_mem_uncommented hm hml⟩

theorem closing_ne_space (kind : QuoteKind) : kind.closing ≠ ' ' := by
  cases kind <;> decide

theorem ofChar?_opening (kind : QuoteKind) : QuoteKind.ofChar? kind.opening = some kind := by
  cases kind <;> rfl

/-! ### One step of the reading -/

theorem lex_run {kind : QuoteKind} {content : List Char} (h : kind.closing ∉ content)
    (rest : List Char) :
    lex (kind.opening :: (content ++ kind.closing :: rest)) = .run kind content :: lex rest := by
  rw [lex.eq_def]
  simp only [ofChar?_opening]
  split
  · rename_i found after hbreak
    rw [breakAt_append h, Option.some.injEq, Prod.mk.injEq] at hbreak
    rw [hbreak.1, hbreak.2]
  · rename_i hbreak
    rw [breakAt_append h] at hbreak
    exact absurd hbreak (by simp)

theorem lex_line (more : List Char) :
    lex ('-' :: '-' :: more) = .comment ('-' :: '-' :: more.takeWhile fun d => !isLineEnd d) ::
      lex (more.dropWhile fun d => !isLineEnd d) := by
  rw [lex]
  rfl

theorem lex_block (more : List Char) :
    lex ('/' :: '*' :: more) = .comment ('/' :: '*' :: (breakComment more).1) ::
      lex (breakComment more).2 := by
  rw [lex]
  rfl

theorem lex_live {c : Char} {rest : List Char} (hc : QuoteKind.ofChar? c = none)
    (hline : ∀ more, c = '-' → rest ≠ '-' :: more)
    (hblock : ∀ more, c = '/' → rest ≠ '*' :: more) :
    lex (c :: rest) = .live c :: lex rest := by
  rw [lex]
  · simp only [hc]
  · exact hline
  · exact hblock

/-- Reading a text gives readable lexemes. -/
theorem readable_lex (s : List Char) : Readable (lex s) := by
  fun_induction lex s with
  | case1 => exact .nil
  | case2 c rest kind _ content after hbreak _ ih =>
      exact .run _ _ _ (not_mem_of_breakAt hbreak) ih
  | case3 c rest kind hkind hbreak ih =>
      refine .live _ _ ?_ ih
      intro other hother hmem
      rw [hother, ofChar?_opening, Option.some.injEq] at hkind
      rw [hkind] at hmem
      exact not_mem_of_breakAt_none hbreak
        (mem_of_mem_uncommentedText (closing_ne_space kind) hmem)
  | case4 more _ _ ih => exact .comment _ _ ih
  | case5 more _ _ ih => exact .comment _ _ ih
  | case6 c rest _ _ hnone ih =>
      refine .live _ _ ?_ ih
      intro kind hc
      rw [hc, ofChar?_opening] at hnone
      exact absurd hnone (by simp)

/-! ### Marks inside runs -/

/-- Whether a text opens a run of the kind that it does not close. -/
def leavesOpen (kind : QuoteKind) : List Char → Bool
  | [] => false
  | c :: rest =>
    if c = kind.opening then
      match h : breakAt kind.closing rest with
      | some (_, after) =>
        have : after.length < rest.length := length_lt_of_breakAt h
        leavesOpen kind after
      | none => true
    else leavesOpen kind rest
termination_by s => s.length
decreasing_by all_goals simp_all <;> omega

/-- Whether the lexeme is a run that opens a run of another kind and does not close it. -/
def Lexeme.leaks (kind : QuoteKind) : Lexeme → Bool
  | .run own content => own ≠ kind && leavesOpen kind content
  | _ => false

/-- No run opens a mark of another kind that something after it closes. -/
def Contained (kind : QuoteKind) : List Lexeme → Prop
  | [] => True
  | l :: rest =>
    (l.leaks kind = true → kind.closing ∉ uncommentedText rest) ∧ Contained kind rest

instance (kind : QuoteKind) : (ls : List Lexeme) → Decidable (Contained kind ls)
  | [] => .isTrue trivial
  | l :: rest =>
    have := instDecidableContained kind rest
    inferInstanceAs (Decidable ((l.leaks kind = true → _) ∧ _))

/-- What one pass makes of a lexeme. It empties the runs of its kind, and what looks
    like one inside the other runs. -/
def Lexeme.pass (kind : QuoteKind) : Lexeme → Lexeme
  | .run own content => .run own (if own = kind then [] else emptyRuns kind content)
  | l => l

/-- No apostrophe that is opened inside a run of another kind is closed outside of it,
    and then no double quote that is opened inside brackets. -/
structure MarksStayInside (s : List Char) : Prop where
  single : Contained .single (lex s)
  double : Contained .double ((lex s).map (Lexeme.pass .single))

instance (s : List Char) : Decidable (MarksStayInside s) :=
  decidable_of_iff
    (Contained .single (lex s) ∧ Contained .double ((lex s).map (Lexeme.pass .single)))
    ⟨fun h => ⟨h.1, h.2⟩, fun h => ⟨h.single, h.double⟩⟩

theorem emptyRuns_of_not_mem_closing {kind : QuoteKind} {s : List Char}
    (h : kind.closing ∉ s) : emptyRuns kind s = s := by
  induction s with
  | nil => rw [emptyRuns]
  | cons c rest ih =>
      simp only [List.mem_cons, not_or] at h
      by_cases hc : c = kind.opening
      · rw [hc, emptyRuns_unclosed h.2]
      · rw [emptyRuns_cons hc, ih h.2]

/-- A text that closes what it opens is emptied on its own, and so is one after which
    nothing is closed. -/
theorem emptyRuns_append_of_closed {kind : QuoteKind} {s t : List Char}
    (h : leavesOpen kind s = true → kind.closing ∉ t) :
    emptyRuns kind (s ++ t) = emptyRuns kind s ++ emptyRuns kind t := by
  fun_induction leavesOpen kind s with
  | case1 => rw [emptyRuns, List.nil_append, List.nil_append]
  | case2 rest content after hbreak _ ih =>
      rw [eq_append_of_breakAt hbreak, List.cons_append, List.append_assoc, List.cons_append,
        emptyRuns_run (not_mem_of_breakAt hbreak), emptyRuns_run (not_mem_of_breakAt hbreak),
        ih h]
      rfl
  | case3 rest hbreak =>
      -- The text leaves a run open that nothing behind it closes.
      have hrest := not_mem_of_breakAt_none hbreak
      rw [emptyRuns_unclosed hrest, emptyRuns_of_not_mem_closing (h rfl), List.cons_append]
      refine emptyRuns_unclosed ?_
      rw [List.mem_append, not_or]
      exact ⟨hrest, h rfl⟩
  | case4 c rest hc ih =>
      rw [List.cons_append, emptyRuns_cons hc, emptyRuns_cons hc, ih h, List.cons_append]

theorem mem_of_mem_emptyRuns {kind : QuoteKind} {m : Char} {s : List Char}
    (h : m ∈ emptyRuns kind s) : m ∈ s := by
  fun_induction emptyRuns kind s with
  | case1 => exact h
  | case2 rest content after hbreak _ ih =>
      rw [eq_append_of_breakAt hbreak]
      simp only [List.mem_cons] at h
      rcases h with h | h | h
      · rw [h]
        exact List.mem_cons_self
      · rw [h]
        simp
      · have hafter := ih h
        simp [hafter]
  | case3 rest hbreak => exact h
  | case4 c rest hc ih =>
      rcases List.mem_cons.mp h with h | h
      · rw [h]
        exact List.mem_cons_self
      · exact List.mem_cons_of_mem c (ih h)

theorem opening_ne_of_ne {kind other : QuoteKind} (h : kind ≠ other) :
    kind.opening ≠ other.opening ∧ kind.closing ≠ other.opening := by
  cases kind <;> cases other <;> first | exact absurd rfl h | decide

/-- One pass over a text is one pass over its lexemes. -/
theorem emptyRuns_uncommented {kind : QuoteKind} {ls : List Lexeme} (h : Readable ls)
    (hcontained : Contained kind ls) :
    emptyRuns kind (uncommentedText ls) = uncommentedText (ls.map (Lexeme.pass kind)) := by
  induction h with
  | nil => exact emptyRuns_of_not_mem_closing List.not_mem_nil
  | run own content rest hcontent _ ih =>
      rw [List.map_cons, uncommentedText_cons, uncommentedText_cons, ← ih hcontained.2]
      simp only [Lexeme.uncommented, Lexeme.source, Lexeme.pass, List.cons_append,
        List.append_assoc, List.nil_append]
      by_cases hown : own = kind
      · rw [if_pos hown, hown, List.nil_append]
        rw [hown] at hcontent
        exact emptyRuns_run hcontent _
      · -- A run of another kind keeps its marks, and what it opens stays open to its end.
        have hne := opening_ne_of_ne hown
        have hclosed : leavesOpen kind content = true →
            kind.closing ∉ own.closing :: uncommentedText rest := by
          intro hopen
          have hleaks : (Lexeme.run own content).leaks kind = true := by
            simp [Lexeme.leaks, hown, hopen]
          rw [List.mem_cons, not_or]
          refine ⟨?_, hcontained.1 hleaks⟩
          revert hown
          cases own <;> cases kind <;> decide
        rw [if_neg hown, emptyRuns_cons hne.1, emptyRuns_append_of_closed hclosed,
          emptyRuns_cons hne.2]
  | comment s rest _ ih =>
      have hspace : ' ' ≠ kind.opening := by cases kind <;> decide
      rw [List.map_cons, uncommentedText_cons, uncommentedText_cons, ← ih hcontained.2]
      exact emptyRuns_cons hspace _
  | live c rest hlive _ ih =>
      rw [List.map_cons, uncommentedText_cons, uncommentedText_cons, ← ih hcontained.2]
      by_cases hc : c = kind.opening
      · -- A live quote mark is one that nothing closes, so the pass runs to the end.
        have hrest := hlive kind hc
        rw [hc, emptyRuns_of_not_mem_closing hrest]
        exact emptyRuns_unclosed hrest
      · exact emptyRuns_cons hc _

theorem mem_of_mem_pass {kind : QuoteKind} {m : Char} {l : Lexeme}
    (h : m ∈ (l.pass kind).uncommented) : m ∈ l.uncommented := by
  cases l with
  | comment s => exact h
  | live c => exact h
  | run own content =>
      simp only [Lexeme.pass, Lexeme.uncommented, Lexeme.source, List.mem_cons,
        List.mem_append] at h ⊢
      rcases h with h | h | h
      · exact Or.inl h
      · split at h
        · exact absurd h List.not_mem_nil
        · exact Or.inr (Or.inl (mem_of_mem_emptyRuns h))
      · exact Or.inr (Or.inr h)

/-- A pass leaves readable lexemes. -/
theorem Readable.pass {ls : List Lexeme} (h : Readable ls) (kind : QuoteKind) :
    Readable (ls.map (Lexeme.pass kind)) := by
  induction h with
  | nil => exact .nil
  | run own content rest hcontent _ ih =>
      refine .run _ _ _ ?_ ih
      split
      · exact List.not_mem_nil
      · exact fun hmem => hcontent (mem_of_mem_emptyRuns hmem)
  | comment s rest _ ih => exact .comment _ _ ih
  | live c rest hlive _ ih =>
      refine .live _ _ ?_ ih
      intro other hc hmem
      rcases List.mem_flatMap.mp hmem with ⟨l, hl, hml⟩
      rcases List.mem_map.mp hl with ⟨l', hl', rfl⟩
      exact hlive other hc (List.mem_flatMap.mpr ⟨l', hl', mem_of_mem_pass hml⟩)

/-- After the passes for quotes no run is left that could hold a bracket. -/
theorem contained_bracket (ls : List Lexeme) :
    Contained .bracket ((ls.map (Lexeme.pass .single)).map (Lexeme.pass .double)) := by
  induction ls with
  | nil => trivial
  | cons l rest ih =>
      refine ⟨fun hleaks => absurd hleaks ?_, ih⟩
      cases l with
      | comment s => exact Bool.false_ne_true
      | live c => exact Bool.false_ne_true
      | run own content => cases own <;> simp [Lexeme.pass, Lexeme.leaks, leavesOpen, emptyRuns]

theorem uncommented_passes (l : Lexeme) :
    (((l.pass .single).pass .double).pass .bracket).uncommented = l.emptied := by
  cases l with
  | comment s => rfl
  | live c => rfl
  | run own content =>
      cases own <;>
        simp [Lexeme.pass, Lexeme.uncommented, Lexeme.source, Lexeme.emptied, emptyRuns]

theorem contained_of_no_leak {kind : QuoteKind} {ls : List Lexeme}
    (h : ∀ l ∈ ls, l.leaks kind = false) : Contained kind ls := by
  induction ls with
  | nil => trivial
  | cons l rest ih =>
      refine ⟨fun hleaks => ?_, ih fun l' hl' => h l' (List.mem_cons_of_mem l hl')⟩
      rw [h l List.mem_cons_self] at hleaks
      exact absurd hleaks Bool.false_ne_true

/-- A text with one kind of quotes has nothing for its marks to get into. -/
theorem marksStayInside_of_single {s : List Char} (h : ∀ c ∈ s, c ≠ '"' ∧ c ≠ '[') :
    MarksStayInside s := by
  have hsingle : ∀ l ∈ lex s, l.leaks .single = false ∧
      (l.pass .single).leaks .double = false := by
    intro l hl
    cases l with
    | comment s => exact ⟨rfl, rfl⟩
    | live c => exact ⟨rfl, rfl⟩
    | run kind content =>
        -- The opening mark is a character of the text.
        have hmem : kind.opening ∈ s := by
          rw [← flatMap_source_lex s]
          exact List.mem_flatMap.mpr ⟨_, hl, List.mem_cons_self⟩
        have hne := h kind.opening hmem
        cases kind with
        | single => simp [Lexeme.leaks, Lexeme.pass, leavesOpen]
        | double => exact absurd rfl hne.1
        | bracket => exact absurd rfl hne.2
  constructor
  · exact contained_of_no_leak fun l hl => (hsingle l hl).1
  · refine contained_of_no_leak fun l hl => ?_
    rcases List.mem_map.mp hl with ⟨l', hl', rfl⟩
    exact (hsingle l' hl').2

/-- The three passes give the live text of a query whose marks stay inside their runs. -/
theorem literalFree_withoutComments {s : List Char} (h : MarksStayInside s) :
    literalFree (withoutComments s) = liveText s := by
  have hread := readable_lex s
  have hsingle := emptyRuns_uncommented hread h.single
  have hdouble := emptyRuns_uncommented (hread.pass .single) h.double
  have hbracket := emptyRuns_uncommented ((hread.pass .single).pass .double)
    (contained_bracket (lex s))
  have huncommented : withoutComments s = uncommentedText (lex s) := rfl
  rw [literalFree, huncommented, hsingle, hdouble, hbracket, uncommentedText, liveText]
  simp only [List.flatMap_map, uncommented_passes]

end Gate

end SqlCatalog
