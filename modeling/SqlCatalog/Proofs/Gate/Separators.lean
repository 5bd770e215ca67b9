import SqlCatalog.Proofs.Gate.LiveText
import SqlCatalog.Proofs.Gate.Squeezing

/-!
# Separators

What may stand between two words of a query: blanks, a comment to the end of its line, a comment
between its marks, and any number of these in a row. The gate looks at the normal form of a
query, so a keyword is disguised by none of them if the normal form does not depend on which of
them was used.

What stands before a separator has to be read to its end. A quote mark that is still open would
take the separator into a literal as soon as the mark is closed further on, a comment would take
it in, and a dash would begin a comment with the dash of a comment mark. `Complete` rules these
out and nothing else. The text behind the separator is arbitrary: half a literal, the end of a
comment, or nothing.

The reading of the whole text then falls apart at the separator (`lex_append`). A separator is
read as blanks, and the only thing that collapsing them leaves is that there were some.

## Main definitions

* `IsClosedComment`: A comment between its marks.
* `Settled`, `Complete`: A text that is read to its end.
* `Separator`: What may stand between two words.

## Theorems

* `lex_append`: What follows a complete text is read on its own.
* `Separator.exists_blanks`: A separator is read as blanks.
* `normalize_separator`: The normal form does not depend on the separator.
-/

namespace SqlCatalog

namespace Gate

/-- A comment between its marks. -/
def IsClosedComment (s : List Char) : Prop :=
  ∃ body, s = '/' :: '*' :: (body ++ ['*', '/'])

/-- A reading that is at an end: no quote mark waits for its fellow, and neither does the last
    lexeme go on, as an unclosed comment does, nor may it become a comment mark. -/
structure Settled (ls : List Lexeme) : Prop where
  paired : ∀ kind : QuoteKind, .live kind.opening ∉ ls
  ended : ∀ source, ls.getLast? = some (.comment source) → IsClosedComment source
  noDash : ls.getLast? ≠ some (.live '-')

/-- A text that is read to its end. -/
def Complete (p : List Char) : Prop :=
  Settled (lex p)

/-- What may stand between two words. -/
inductive Separator : List Char → Prop
  | blanks (s : List Char) : s ≠ [] → (∀ c ∈ s, Text.isBlank c = true) → Separator s
  | line (body : List Char) (mark : Char) : (∀ c ∈ body, isLineEnd c = false) →
      isLineEnd mark = true → Separator ('-' :: '-' :: (body ++ [mark]))
  | block (body : List Char) : ¬['*', '/'] <:+: body →
      Separator ('/' :: '*' :: (body ++ ['*', '/']))
  | append (s t : List Char) : Separator s → Separator t → Separator (s ++ t)

/-! ### Reading on behind a complete text -/

theorem Settled.of_cons {l : Lexeme} {ls : List Lexeme} (h : Settled (l :: ls)) : Settled ls := by
  have hlast (m : Lexeme) (hm : ls.getLast? = some m) : (l :: ls).getLast? = some m := by
    rw [List.getLast?_cons, hm, Option.getD_some]
  exact ⟨fun kind hmem => h.paired kind (List.mem_cons_of_mem l hmem),
    fun source hsource => h.ended source (hlast _ hsource), fun hdash => h.noDash (hlast _ hdash)⟩

/-- A comment that something follows is closed. -/
theorem exists_of_breakComment {s : List Char} (h : (breakComment s).2 ≠ []) :
    ∃ body, (breakComment s).1 = body ++ ['*', '/'] := by
  fun_induction breakComment s with
  | case1 => exact absurd rfl h
  | case2 rest => exact ⟨[], rfl⟩
  | case3 c rest _ comment after hbreak ih =>
      obtain ⟨body, hbody⟩ := ih (by rwa [hbreak])
      rw [hbreak] at hbody
      exact ⟨c :: body, congrArg (c :: ·) hbody⟩

/-- A comment that is closed ends where it did, whatever follows. -/
theorem breakComment_append_of_closed {s body : List Char}
    (h : (breakComment s).1 = body ++ ['*', '/']) (t : List Char) :
    breakComment (s ++ t) = ((breakComment s).1, (breakComment s).2 ++ t) := by
  fun_induction breakComment s generalizing body with
  | case1 => exact absurd h.symm (by simp)
  | case2 rest => rfl
  | case3 c rest hopen comment after hbreak ih =>
      rw [hbreak] at ih
      cases body with
      | nil =>
          -- The comment would end with its first two characters, and it did not.
          obtain ⟨rfl, hslash⟩ := List.cons.inj h
          have hrest := breakComment_append rest
          rw [hbreak, hslash] at hrest
          exact absurd hrest.symm (hopen _ rfl)
      | cons d body =>
          obtain ⟨rfl, hcomment⟩ := List.cons.inj h
          rw [List.cons_append, breakComment, ih hcomment]
          intro more hstar hslash
          -- The rest of the comment is not empty, so a slash behind the star is part of it.
          cases rest with
          | nil =>
              have hnone : [] = comment := (Prod.mk.inj hbreak).1
              exact absurd (hnone.trans hcomment) (by simp)
          | cons e rest =>
              rw [List.cons_append] at hslash
              exact hopen rest hstar (by rw [(List.cons.inj hslash).1])

/-- A comment goes on to its first closing mark. -/
theorem breakComment_of_not_infix {body : List Char} (h : ¬['*', '/'] <:+: body)
    (after : List Char) :
    breakComment (body ++ '*' :: '/' :: after) = (body ++ ['*', '/'], after) := by
  induction body with
  | nil => rfl
  | cons c rest ih =>
      have hrest := ih fun hcloses => h (hcloses.trans (List.suffix_cons c rest).isInfix)
      rw [List.cons_append, breakComment, hrest, List.cons_append]
      intro more hstar hslash
      cases rest with
      | nil => exact absurd (List.cons.inj hslash).1 (by decide)
      | cons e rest =>
          rw [List.cons_append] at hslash
          refine h ⟨[], rest, ?_⟩
          rw [hstar, (List.cons.inj hslash).1]
          rfl

/-- What follows a complete text is read on its own. A slash at the end of the text must not
    meet a star. -/
theorem lex_append {p t : List Char} (hp : Complete p) (ht : t.head? ≠ some '*') :
    lex (p ++ t) = lex p ++ lex t := by
  unfold Complete at hp
  fun_induction lex p with
  | case1 => rfl
  | case2 c rest kind hkind content after hbreak _ ih =>
      rw [QuoteKind.opening_of_ofChar? hkind, eq_append_of_breakAt hbreak, List.cons_append,
        List.append_assoc, List.cons_append, lex_run (not_mem_of_breakAt hbreak), ih hp.of_cons,
        List.cons_append]
  | case3 c rest kind hkind hbreak ih =>
      rw [QuoteKind.opening_of_ofChar? hkind] at hp
      exact absurd List.mem_cons_self (hp.paired kind)
  | case4 more _ _ ih =>
      -- A line comment is followed by the end of its line, since it is never closed.
      have hline : more.dropWhile (fun d => !isLineEnd d) ≠ [] := by
        intro hnil
        rw [hnil, lex] at hp
        obtain ⟨body, hbody⟩ := hp.ended _ rfl
        exact absurd (List.cons.inj hbody).1 (by decide)
      have htake : (more ++ t).takeWhile (fun d => !isLineEnd d) =
          more.takeWhile (fun d => !isLineEnd d) := by
        have hmore := List.takeWhile_append_dropWhile (p := fun d => !isLineEnd d) (l := more)
        have hlength := congrArg List.length hmore
        rw [List.length_append] at hlength
        have hpos := List.length_pos_of_ne_nil hline
        rw [List.takeWhile_append, if_neg (by omega)]
      rw [List.cons_append, List.cons_append, lex_line, htake, List.dropWhile_append,
        if_neg (by simpa using hline), ih hp.of_cons, List.cons_append]
  | case5 more _ _ ih =>
      obtain ⟨body, hbody⟩ : ∃ body, (breakComment more).1 = body ++ ['*', '/'] := by
        by_cases hafter : (breakComment more).2 = []
        · rw [hafter, lex] at hp
          obtain ⟨body, hbody⟩ := hp.ended _ rfl
          exact ⟨body, (List.cons.inj (List.cons.inj hbody).2).2⟩
        · exact exists_of_breakComment hafter
      rw [List.cons_append, List.cons_append, lex_block, breakComment_append_of_closed hbody,
        ih hp.of_cons, List.cons_append]
  | case6 c rest hline hblock hnone ih =>
      rw [List.cons_append, lex_live hnone, ih hp.of_cons, List.cons_append]
      · intro next hdash hnext
        cases rest with
        | nil =>
            rw [lex] at hp
            exact hp.noDash (by rw [hdash]; rfl)
        | cons d rest => exact hline rest hdash (by rw [(List.cons.inj hnext).1])
      · intro next hslash hnext
        cases rest with
        | nil => exact ht (by rw [show t = '*' :: next from hnext]; rfl)
        | cons d rest => exact hblock rest hslash (by rw [(List.cons.inj hnext).1])

/-! ### Separators -/

/-- A text behind a separator does not begin with a star. -/
theorem Separator.head?_append_ne_star {c : List Char} (h : Separator c) (q : List Char) :
    (c ++ q).head? ≠ some '*' := by
  induction h generalizing q with
  | blanks s hne hblank =>
      rw [List.head?_append_of_ne_nil s hne]
      intro hstar
      exact absurd (hblank '*' (List.mem_of_mem_head? hstar)) (by decide)
  | line body mark _ _ => exact fun hstar => absurd (Option.some.inj hstar) (by decide)
  | block body _ => exact fun hstar => absurd (Option.some.inj hstar) (by decide)
  | append s t _ _ ihs _ =>
      rw [List.append_assoc]
      exact ihs (t ++ q)

/-- A blank is live whatever follows it. -/
theorem lex_blank {c : Char} (h : Text.isBlank c = true) (rest : List Char) :
    lex (c :: rest) = .live c :: lex rest := by
  have hne {m : Char} (hm : Text.isBlank m = false) : c ≠ m := by
    rintro rfl
    exact absurd h (hm ▸ Bool.false_ne_true)
  have hkind : QuoteKind.ofChar? c = none := by
    rw [QuoteKind.ofChar?, if_neg (hne (by decide)), if_neg (hne (by decide)),
      if_neg (hne (by decide))]
  exact lex_live hkind (fun _ hdash => absurd hdash (hne (by decide)))
    fun _ hslash => absurd hslash (hne (by decide))

theorem isBlank_of_isLineEnd {c : Char} (h : isLineEnd c = true) : Text.isBlank c = true := by
  rw [isLineEnd, Bool.or_eq_true, beq_iff_eq, beq_iff_eq] at h
  rcases h with rfl | rfl <;> decide

theorem withoutComments_blank {c : Char} (h : Text.isBlank c = true) (rest : List Char) :
    withoutComments (c :: rest) = c :: withoutComments rest := by
  rw [withoutComments, lex_blank h]
  rfl

/-- A separator is read as blanks, whatever follows it. -/
theorem Separator.exists_blanks {c : List Char} (h : Separator c) :
    ∃ b, b ≠ [] ∧ (∀ d ∈ b, Text.isBlank d = true) ∧
      ∀ q, withoutComments (c ++ q) = b ++ withoutComments q := by
  have hspace : Text.isBlank ' ' = true := by decide
  induction h with
  | blanks s hne hblank =>
      refine ⟨s, hne, hblank, fun q => ?_⟩
      clear hne
      induction s with
      | nil => rfl
      | cons c rest ih =>
          obtain ⟨hc, hrest⟩ := List.forall_mem_cons.mp hblank
          rw [List.cons_append, withoutComments_blank hc, ih hrest, List.cons_append]
  | line body mark hbody hmark =>
      have hblank := isBlank_of_isLineEnd hmark
      refine ⟨[' ', mark], List.cons_ne_nil _ _, by simp [hspace, hblank], fun q => ?_⟩
      have hdrop : (body ++ mark :: q).dropWhile (fun d => !isLineEnd d) = mark :: q := by
        rw [List.dropWhile_append_of_pos fun d hd => by rw [hbody d hd]; rfl,
          List.dropWhile_cons, if_neg (by rw [hmark]; decide)]
      have hread : withoutComments ('-' :: '-' :: (body ++ mark :: q)) =
          ' ' :: withoutComments (mark :: q) := by
        rw [withoutComments, lex_line, hdrop]
        rfl
      rw [List.cons_append, List.cons_append, List.append_assoc, List.singleton_append, hread,
        withoutComments_blank hblank]
      rfl
  | block body hbody =>
      refine ⟨[' '], List.cons_ne_nil _ _, by simp [hspace], fun q => ?_⟩
      rw [List.cons_append, List.cons_append, List.append_assoc, withoutComments, lex_block]
      have hbreak := breakComment_of_not_infix hbody q
      rw [show body ++ (['*', '/'] ++ q) = body ++ '*' :: '/' :: q from rfl, hbreak]
      rfl
  | append s t _ _ ihs iht =>
      obtain ⟨b, hne, hblank, hread⟩ := ihs
      obtain ⟨b', -, hblank', hread'⟩ := iht
      refine ⟨b ++ b', by simp [hne], List.forall_mem_append.mpr ⟨hblank, hblank'⟩, fun q => ?_⟩
      rw [List.append_assoc, hread, hread', List.append_assoc]

/-! ### Collapsing -/

/-- Of blanks there remains that there were some. -/
theorem collapseFrom_blanks {b : List Char} (hne : b ≠ [])
    (hblank : ∀ c ∈ b, Text.isBlank c = true) (afterBlank : Bool) (t : List Char) :
    collapseFrom afterBlank (b ++ t) =
      if afterBlank then collapseFrom true t else ' ' :: collapseFrom true t := by
  induction b generalizing afterBlank with
  | nil => exact absurd rfl hne
  | cons c rest ih =>
      obtain ⟨hc, hrest⟩ := List.forall_mem_cons.mp hblank
      have htail : collapseFrom true (rest ++ t) = collapseFrom true t := by
        cases rest with
        | nil => rfl
        | cons d more => exact ih (List.cons_ne_nil d more) hrest true
      rw [List.cons_append, collapseFrom, if_pos hc, htail]

/-- Texts that are collapsed alike may follow any other text. -/
theorem collapseFrom_append_congr {t t' : List Char}
    (h : ∀ afterBlank, collapseFrom afterBlank t = collapseFrom afterBlank t') (s : List Char)
    (afterBlank : Bool) : collapseFrom afterBlank (s ++ t) = collapseFrom afterBlank (s ++ t') := by
  induction s generalizing afterBlank with
  | nil => exact h afterBlank
  | cons c rest ih => simp only [List.cons_append, collapseFrom, ih]

/-- The normal form of a query does not depend on what separates its beginning from the rest of
    it, whatever that rest is. -/
theorem normalize_separator {p c c' : List Char} (hp : Complete p) (hc : Separator c)
    (hc' : Separator c') (q : List Char) : normalize (p ++ c ++ q) = normalize (p ++ c' ++ q) := by
  -- Both separators are read as blanks behind the same text and before the same text.
  have hread {d : List Char} (hd : Separator d) :
      withoutComments (p ++ d ++ q) = withoutComments p ++ withoutComments (d ++ q) := by
    rw [List.append_assoc, withoutComments, lex_append hp (hd.head?_append_ne_star q),
      List.flatMap_append]
    rfl
  obtain ⟨b, hne, hblank, hb⟩ := hc.exists_blanks
  obtain ⟨b', hne', hblank', hb'⟩ := hc'.exists_blanks
  have hcollapse : collapse (withoutComments (p ++ c ++ q)) =
      collapse (withoutComments (p ++ c' ++ q)) := by
    rw [hread hc, hread hc', hb, hb']
    refine collapseFrom_append_congr (fun afterBlank => ?_) _ false
    rw [collapseFrom_blanks hne hblank, collapseFrom_blanks hne' hblank']
  rw [normalize, normalize, hcollapse]

end Gate

end SqlCatalog
