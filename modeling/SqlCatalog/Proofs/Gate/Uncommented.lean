import Mathlib.Data.List.Chain
import SqlCatalog.Proofs.Gate.LiveText
import SqlCatalog.Proofs.Gate.Squeezing

/-!
# Texts Without Comments

The normal form drops the comments first and rewrites what is left three times over. Each of
these steps could make a comment of what was none: two dashes move together when a blank
between them goes, a quote mark that was closed inside a comment is left open without it, and
letter case has the whole code space to bring a star forth from. None of this happens, and the
reasons are different for what stands outside the runs and for the runs themselves.

`CommentFree` keeps the two apart. A text without comments is cut at its first quote mark. What
comes before is plain, and that is a matter of neighbours alone: no two of them begin a
comment. The quote mark opens a run, or it is one that nothing closes, and what follows goes on
in the same way. A rewriting that treats the two sides of a quote mark apart and keeps plain
neighbours apart leaves a text without comments as it found it.

## Main definitions

* `StayApart`: Two neighbours do not begin a comment.
* `Plain`: A text without marks that open runs or comments.
* `CommentFree`: A text in which no comment is read.

## Theorems

* `commentFree_withoutComments`: A text is free of comments once they are blanks.
* `CommentFree.map`: So is a rewriting of it that splits at quote marks.
* `CommentFree.squeeze`, `CommentFree.upper`: The steps of the normal form are of this kind.
* `CommentFree.not_mem_lex`: No comment is read in such a text.
* `withoutComments_eq`: There is nothing to drop from a text in which none is read.
-/

namespace SqlCatalog

namespace Gate

/-- Two neighbours do not begin a comment. -/
def StayApart (c d : Char) : Prop :=
  (c = '-' → d ≠ '-') ∧ (c = '/' → d ≠ '*')

/-- No mark of the text opens a run, and no two neighbours begin a comment. -/
structure Plain (s : List Char) : Prop where
  unquoted : ∀ kind : QuoteKind, kind.opening ∉ s
  apart : s.IsChain StayApart

/-- A text in which no comment is read. It is cut at its first quote mark, which opens a run
    or is one that nothing closes. -/
inductive CommentFree : List Char → Prop
  | plain (s : List Char) : Plain s → CommentFree s
  | unclosed (s : List Char) (kind : QuoteKind) (t : List Char) : Plain s → kind.closing ∉ t →
      CommentFree t → CommentFree (s ++ kind.opening :: t)
  | run (s : List Char) (kind : QuoteKind) (content t : List Char) : Plain s →
      kind.closing ∉ content → CommentFree t →
      CommentFree (s ++ kind.opening :: (content ++ kind.closing :: t))

theorem plain_nil : Plain [] :=
  ⟨fun _ => List.not_mem_nil, .nil⟩

theorem stayApart_opening (c : Char) (kind : QuoteKind) : StayApart c kind.opening := by
  cases kind <;> exact ⟨fun _ => by decide, fun _ => by decide⟩

theorem Plain.cons {c : Char} {s : List Char} (hc : ∀ kind : QuoteKind, c ≠ kind.opening)
    (hnext : ∀ d ∈ s.head?, StayApart c d) (h : Plain s) : Plain (c :: s) where
  unquoted kind hmem := by
    rcases List.mem_cons.mp hmem with heq | hmem
    · exact hc kind heq.symm
    · exact h.unquoted kind hmem
  apart := h.apart.cons hnext

theorem CommentFree.cons {c : Char} {s : List Char} (hc : ∀ kind : QuoteKind, c ≠ kind.opening)
    (hnext : ∀ d ∈ s.head?, StayApart c d) (h : CommentFree s) : CommentFree (c :: s) := by
  -- Only the neighbour in the plain part matters, and a quote mark is a safe one.
  have hplain (u v : List Char) (hu : Plain u) (huv : ∀ d ∈ (u ++ v).head?, StayApart c d) :
      Plain (c :: u) := by
    refine hu.cons hc fun d hd => huv d ?_
    rw [Option.mem_def] at hd ⊢
    rw [List.head?_append, hd, Option.some_or]
  cases h with
  | plain s hs => exact .plain _ (hs.cons hc hnext)
  | unclosed u kind t hu ht hrest =>
      exact .unclosed (c :: u) kind t (hplain u _ hu hnext) ht hrest
  | run u kind content t hu hcontent hrest =>
      exact .run (c :: u) kind content t (hplain u _ hu hnext) hcontent hrest

/-! ### Dropping the comments -/

/-- Without comments a text begins as it did, or with a blank. -/
theorem head?_withoutComments {s : List Char} {d : Char} (h : d ∈ (withoutComments s).head?) :
    d = ' ' ∨ d ∈ s.head? := by
  have hsource := flatMap_source_lex s
  rw [withoutComments] at h
  rcases hlex : lex s with _ | ⟨l, rest⟩
  · rw [hlex] at h
    exact absurd h (by simp)
  · rw [hlex] at h hsource
    rw [← hsource]
    cases l with
    | comment source => exact .inl (by simpa [Lexeme.uncommented, eq_comm] using h)
    | run kind content => exact .inr h
    | live c => exact .inr h

/-- A text is free of comments once they are blanks. -/
theorem commentFree_withoutComments (s : List Char) : CommentFree (withoutComments s) := by
  have hblank (t : List Char) (ht : CommentFree t) : CommentFree (' ' :: t) := by
    refine ht.cons (fun kind => ?_) fun d _ => ⟨fun h => ?_, fun h => ?_⟩
    · cases kind <;> decide
    all_goals exact absurd h (by decide)
  unfold withoutComments
  fun_induction lex s with
  | case1 => exact .plain [] plain_nil
  | case2 c rest kind _ content after hbreak _ ih =>
      have hrun : (Lexeme.run kind content).uncommented =
          kind.opening :: (content ++ [kind.closing]) := rfl
      rw [List.flatMap_cons, hrun, List.cons_append, List.append_assoc, List.singleton_append]
      exact .run [] kind content _ plain_nil (not_mem_of_breakAt hbreak) ih
  | case3 c rest kind hkind hbreak ih =>
      rw [QuoteKind.opening_of_ofChar? hkind]
      refine .unclosed [] kind _ plain_nil (fun hmem => ?_) ih
      exact not_mem_of_breakAt_none hbreak
        (mem_of_mem_uncommentedText (closing_ne_space kind) hmem)
  | case4 more _ _ ih => exact hblank _ ih
  | case5 more _ _ ih => exact hblank _ ih
  | case6 c rest hline hblock hnone ih =>
      -- The neighbour is the one that the text had, or it is a blank.
      refine ih.cons (fun kind hc => ?_) fun d hd => ?_
      · rw [hc, ofChar?_opening] at hnone
        exact absurd hnone (by simp)
      · rcases head?_withoutComments hd with rfl | hsame
        · exact ⟨fun _ => by decide, fun _ => by decide⟩
        · obtain ⟨more, rfl⟩ := List.head?_eq_some_iff.mp hsame
          exact ⟨fun hc hd => hline more hc (by rw [hd]), fun hc hd => hblock more hc (by rw [hd])⟩

/-! ### Rewriting -/

/-- A rewriting keeps plain neighbours apart. -/
def KeepsApart (f : List Char → List Char) : Prop :=
  ∀ s, s.IsChain StayApart → (f s).IsChain StayApart

theorem Plain.map {f : List Char → List Char} {s : List Char} (h : Plain s)
    (hmem : ∀ m, isQuoteMark m = true → m ∈ f s → m ∈ s) (hf : KeepsApart f) : Plain (f s) where
  unquoted kind hopen := h.unquoted kind (hmem _ (isQuoteMark_opening kind) hopen)
  apart := hf s h.apart

/-- A rewriting that splits at quote marks and keeps neighbours apart makes no comments. The
    induction is on the quote marks; behind the first of them the rewriting changes to its
    own continuation. -/
theorem CommentFree.map {f before after inner : List Char → List Char} {s : List Char}
    (h : CommentFree s) (hf : SplitsAtMarks f before after)
    (hafter : SplitsAtMarks after inner after) (hkeep : KeepsApart f)
    (hkeepBefore : KeepsApart before) (hkeepAfter : KeepsApart after)
    (hkeepInner : KeepsApart inner) : CommentFree (f s) := by
  induction h generalizing f before with
  | plain s hs => exact .plain _ (hs.map (fun m hm => hf.mem_of_mem m s hm) hkeep)
  | unclosed s kind t hs ht _ ih =>
      rw [hf.append _ _ _ (isQuoteMark_opening kind)]
      refine .unclosed _ kind _ (hs.map (fun m hm => hf.mem_of_mem_before m s hm) hkeepBefore)
        (fun hmem => ht (hafter.mem_of_mem _ _ (isQuoteMark_closing kind) hmem)) ?_
      exact ih hafter hkeepAfter hkeepInner
  | run s kind content t hs hcontent _ ih =>
      rw [hf.append _ _ _ (isQuoteMark_opening kind),
        hafter.append _ _ _ (isQuoteMark_closing kind)]
      refine .run _ kind _ _ (hs.map (fun m hm => hf.mem_of_mem_before m s hm) hkeepBefore)
        (fun hmem => hcontent (hafter.mem_of_mem_before _ _ (isQuoteMark_closing kind) hmem)) ?_
      exact ih hafter hkeepAfter hkeepInner

/-- A character that begins no comment, and one that goes on with none, stay apart from any
    other. -/
theorem stayApart_of_ne {c d : Char} (h : (c ≠ '-' ∧ c ≠ '/') ∨ (d ≠ '-' ∧ d ≠ '*')) :
    StayApart c d := by
  rcases h with ⟨hdash, hslash⟩ | ⟨hdash, hstar⟩
  · exact ⟨fun hc => absurd hc hdash, fun hc => absurd hc hslash⟩
  · exact ⟨fun _ => hdash, fun _ => hstar⟩

theorem head?_collapseFrom {s : List Char} {d : Char} (h : d ∈ (collapseFrom false s).head?) :
    d = ' ' ∨ d ∈ s.head? := by
  cases s with
  | nil => exact absurd h (by simp [collapseFrom])
  | cons c rest =>
      rw [collapseFrom] at h
      split at h
      · exact .inl (Option.some.inj h).symm
      · exact .inr h

theorem keepsApart_collapseFrom (b : Bool) : KeepsApart (collapseFrom b) := by
  intro s h
  induction s generalizing b with
  | nil => exact .nil
  | cons c rest ih =>
      rw [List.isChain_cons] at h
      rw [collapseFrom]
      split
      · split
        · exact ih true h.2
        · exact (ih true h.2).cons fun d _ => stayApart_of_ne (.inl (by decide))
      · refine (ih false h.2).cons fun d hd => ?_
        rcases head?_collapseFrom hd with rfl | hd
        · exact stayApart_of_ne (.inr (by decide))
        · exact h.1 d hd

theorem keepsApart_dropBlanks : KeepsApart (List.dropWhile Text.isBlank) :=
  fun _ h => h.suffix (List.dropWhile_suffix _)

theorem keepsApart_trimEnd : KeepsApart Text.trimEnd :=
  fun s h => h.prefix (isPrefix_trimEnd s)

/-- A tightened text begins as the text did, or with a tight mark. -/
theorem head?_tightenFrom {s : List Char} {d : Char} (h : d ∈ (tightenFrom false s).head?) :
    isTight d = true ∨ d ∈ s.head? := by
  cases s with
  | nil => exact absurd h (by simp [tightenFrom])
  | cons c rest =>
      rw [tightenFrom] at h
      split at h
      · -- The blank goes because a tight mark follows, and that one stays.
        rename_i hdrop
        simp only [Bool.false_or, Bool.and_eq_true, decide_eq_true_eq] at hdrop
        obtain ⟨m, hm, htight⟩ := (Option.any_eq_true _ _).mp hdrop.2
        obtain ⟨more, rfl⟩ := List.head?_eq_some_iff.mp hm
        have hspace : m ≠ ' ' := by
          rintro rfl
          exact absurd htight (by decide)
        rw [tightenFrom, if_neg (by simp [hspace])] at h
        exact .inl (Option.some.inj h ▸ htight)
      · exact .inr h

theorem keepsApart_tightenFrom (b : Bool) : KeepsApart (tightenFrom b) := by
  intro s h
  induction s generalizing b with
  | nil => exact .nil
  | cons c rest ih =>
      rw [List.isChain_cons] at h
      rw [tightenFrom]
      split
      · exact ih b h.2
      · refine (ih (isTight c) h.2).cons fun d hd => ?_
        by_cases hc : isTight c = true
        · refine stayApart_of_ne (.inl ⟨?_, ?_⟩) <;> rintro rfl <;> exact absurd hc (by decide)
        · rw [Bool.not_eq_true] at hc
          rw [hc] at hd
          rcases head?_tightenFrom hd with htight | hd
          · refine stayApart_of_ne (.inr ⟨?_, ?_⟩) <;> rintro rfl <;>
              exact absurd htight (by decide)
          · exact h.1 d hd

/-- Upper case keeps neighbours in a relation that tells apart only characters which stay as
    they are. -/
theorem isChain_upper {R : Char → Char → Prop}
    (hR : ∀ c, Text.upperChar c = [c] ∨ ∀ d ∈ Text.upperChar c, ∀ e, R d e ∧ R e d)
    {s : List Char} (h : s.IsChain R) : (Text.upper s).IsChain R := by
  induction s with
  | nil => exact .nil
  | cons c rest ih =>
      rw [List.isChain_cons] at h
      rw [upper_cons, List.isChain_append]
      refine ⟨?_, ih h.2, ?_⟩
      · rcases hR c with hsame | hfree
        · rw [hsame]
          exact .singleton c
        · exact List.Pairwise.isChain (List.pairwise_of_forall_mem_list
            fun d hd e _ => (hfree d hd e).1)
      · intro d hd e he
        have hdmem := List.mem_of_mem_getLast? hd
        rcases hR c with hsame | hfree
        · rw [hsame, List.mem_singleton] at hdmem
          cases rest with
          | nil => exact absurd he (by simp [Text.upper])
          | cons c' more =>
              have hemem : e ∈ Text.upperChar c' := by
                refine List.mem_of_mem_head? (?_ : e ∈ (Text.upperChar c').head?)
                rwa [upper_cons, List.head?_append_of_ne_nil _ (upperChar_ne_nil c')] at he
              rcases hR c' with hsame' | hfree'
              · rw [hsame', List.mem_singleton] at hemem
                rw [hdmem, hemem]
                exact h.1 c' rfl
              · exact (hfree' e hemem d).2
        · exact (hfree d hdmem e).1

theorem keepsApart_upper : KeepsApart Text.upper := by
  refine fun s h => isChain_upper (fun c => ?_) h
  by_cases hmark : c = '-' ∨ c = '/' ∨ c = '*'
  · left
    rcases hmark with rfl | rfl | rfl <;> rfl
  · right
    simp only [not_or] at hmark
    -- None of the three marks is the upper case of anything else.
    have hne (m : Char) (hm : m.toNat ∈ Text.asciiMarks) (hcm : c ≠ m) {d : Char}
        (hd : d ∈ Text.upperChar c) : d ≠ m := by
      rintro rfl
      exact hcm (Text.eq_of_mem_upperChar hm hd).symm
    intro d hd e
    have hdash := hne '-' (by decide) hmark.1 hd
    exact ⟨stayApart_of_ne (.inl ⟨hdash, hne '/' (by decide) hmark.2.1 hd⟩),
      stayApart_of_ne (.inr ⟨hdash, hne '*' (by decide) hmark.2.2 hd⟩)⟩

/-- Squeezing a text makes no comments. -/
theorem CommentFree.squeeze {s : List Char} (h : CommentFree s) : CommentFree (squeeze s) := by
  have hid : KeepsApart id := fun _ h => h
  have hcollapse := h.map (collapse_splits false) (collapse_splits false)
    (keepsApart_collapseFrom false) (keepsApart_collapseFrom false)
    (keepsApart_collapseFrom false) (keepsApart_collapseFrom false)
  have hdrop := hcollapse.map dropBlanks_splits id_splits keepsApart_dropBlanks
    keepsApart_dropBlanks hid hid
  have htrim := hdrop.map trimEnd_splits trimEnd_splits keepsApart_trimEnd hid
    keepsApart_trimEnd hid
  exact htrim.map (tighten_splits false) (tighten_splits false) (keepsApart_tightenFrom false)
    (keepsApart_tightenFrom false) (keepsApart_tightenFrom false) (keepsApart_tightenFrom false)

/-- Upper case makes no comments. -/
theorem CommentFree.upper {s : List Char} (h : CommentFree s) : CommentFree (Text.upper s) :=
  h.map upper_splits upper_splits keepsApart_upper keepsApart_upper keepsApart_upper
    keepsApart_upper

/-! ### Reading -/

theorem lex_unclosed {kind : QuoteKind} {rest : List Char} (h : kind.closing ∉ rest) :
    lex (kind.opening :: rest) = .live kind.opening :: lex rest := by
  rw [lex.eq_def]
  simp only [ofChar?_opening]
  split
  · rename_i hbreak
    rw [breakAt_eq_none h] at hbreak
    exact absurd hbreak (by simp)
  · rfl

/-- A plain text before a quote mark, or before the end, is read one character at a time. -/
theorem lex_plain {s t : List Char} (h : Plain s)
    (ht : t = [] ∨ ∃ kind : QuoteKind, ∃ rest, t = kind.opening :: rest) :
    lex (s ++ t) = s.map .live ++ lex t := by
  induction s with
  | nil => rfl
  | cons c rest ih =>
      have hrest : Plain rest :=
        ⟨fun kind hmem => h.unquoted kind (List.mem_cons_of_mem c hmem), h.apart.tail⟩
      have hc : QuoteKind.ofChar? c = none := by
        rcases hkind : QuoteKind.ofChar? c with _ | kind
        · rfl
        · rw [QuoteKind.opening_of_ofChar? hkind] at h
          exact absurd List.mem_cons_self (h.unquoted kind)
      have hnext : ∀ d ∈ (rest ++ t).head?, StayApart c d := by
        cases rest with
        | cons d more => exact fun e he => (List.isChain_cons.mp h.apart).1 e he
        | nil =>
            rcases ht with rfl | ⟨kind, more, rfl⟩
            · exact fun d hd => absurd hd (by simp)
            · intro d hd
              rw [← Option.some.inj hd]
              exact stayApart_opening c kind
      rw [List.cons_append, lex_live hc, ih hrest, List.map_cons, List.cons_append]
      · intro more hdash heq
        exact (hnext '-' (by rw [heq]; rfl)).1 hdash rfl
      · intro more hslash heq
        exact (hnext '*' (by rw [heq]; rfl)).2 hslash rfl

/-- No comment is read in a text that is free of them. -/
theorem CommentFree.not_mem_lex {s : List Char} (h : CommentFree s) (source : List Char) :
    .comment source ∉ lex s := by
  have hlive (u : List Char) : Lexeme.comment source ∉ u.map .live := by simp
  induction h with
  | plain s hs =>
      have hread := lex_plain hs (.inl rfl)
      rw [List.append_nil, lex, List.append_nil] at hread
      rw [hread]
      exact hlive s
  | unclosed s kind t hs ht _ ih =>
      rw [lex_plain hs (.inr ⟨kind, t, rfl⟩), lex_unclosed ht]
      simp [ih]
  | run s kind content t hs hcontent _ ih =>
      rw [lex_plain hs (.inr ⟨kind, _, rfl⟩), lex_run hcontent]
      simp [ih]

/-- There is nothing to drop from a text in which no comment is read. -/
theorem withoutComments_eq {s : List Char} (h : ∀ source, .comment source ∉ lex s) :
    withoutComments s = s := by
  have hkept : ∀ ls : List Lexeme, (∀ source, .comment source ∉ ls) →
      ls.flatMap Lexeme.uncommented = ls.flatMap Lexeme.source := by
    intro ls hls
    refine List.flatMap_congr fun l hl => ?_
    cases l with
    | comment source => exact absurd hl (hls source)
    | run kind content => rfl
    | live c => rfl
  rw [withoutComments, hkept _ h, flatMap_source_lex]

end Gate

end SqlCatalog
