/-!
# Lexemes of a Query Text

One reading of a text from left to right: quoted runs, comments and live
characters. A run opens with a single quote, a double quote or a bracket and goes
up to the next closing mark of its kind; an opening mark that never closes is a
live character like any other. A comment goes from two dashes to the end of the
line, or from a slash and a star to the next star and slash, or to the end of
the text. A comment mark inside a run is part of the run, and a quote inside a
comment is part of the comment, because whichever begins first is read first.

## Main definitions

* `QuoteKind`, `Lexeme`: The kinds of runs, and what a text is made of.
* `breakAt`: The text up to a closing mark and the text after it.
* `lex`: The lexemes of a text.

## Theorems

* `eq_append_of_breakAt`: Breaking a text loses nothing but the closing mark.
* `flatMap_source_lex`: The lexemes are the text.
-/

namespace SqlCatalog

namespace Gate

/-- The kinds of quoted runs. -/
inductive QuoteKind where
  | single
  | double
  | bracket
deriving DecidableEq

namespace QuoteKind

/-- The mark that opens a run. -/
def opening : QuoteKind → Char
  | .single => '\''
  | .double => '"'
  | .bracket => '['

/-- The mark that closes a run. -/
def closing : QuoteKind → Char
  | .single => '\''
  | .double => '"'
  | .bracket => ']'

/-- The kind of run that a character opens, if it opens one. -/
def ofChar? (c : Char) : Option QuoteKind :=
  if c = '\'' then some .single
  else if c = '"' then some .double
  else if c = '[' then some .bracket
  else none

/-- A character that opens a run is the opening mark of its kind. -/
theorem opening_of_ofChar? {c : Char} {kind : QuoteKind} (h : ofChar? c = some kind) :
    c = kind.opening := by
  unfold ofChar? at h
  split at h
  · simp_all [opening]; subst h; rfl
  · split at h
    · simp_all; subst h; rfl
    · split at h <;> simp_all; subst h; rfl

end QuoteKind

/-- What a text is made of. A comment keeps its marks. -/
inductive Lexeme where
  | run (kind : QuoteKind) (content : List Char)
  | comment (source : List Char)
  | live (c : Char)
deriving DecidableEq

namespace Lexeme

/-- The part of the text that the lexeme was read from. -/
def source : Lexeme → List Char
  | .run kind content => kind.opening :: (content ++ [kind.closing])
  | .comment s => s
  | .live c => [c]

/-- The text of the lexeme with a comment read as a blank. -/
def uncommented : Lexeme → List Char
  | .comment _ => [' ']
  | l => l.source

end Lexeme

/-- The text before the first occurrence of a mark and the text after it. -/
def breakAt (mark : Char) (s : List Char) : Option (List Char × List Char) :=
  if s.contains mark then some (s.takeWhile (· != mark), (s.dropWhile (· != mark)).tail)
  else none

/-- The comment text up to and including the star and slash that end it, and the
    text after it. A comment that never ends takes everything. -/
def breakComment : List Char → List Char × List Char
  | [] => ([], [])
  | '*' :: '/' :: rest => (['*', '/'], rest)
  | c :: rest =>
    let (comment, after) := breakComment rest
    (c :: comment, after)

/-- Whether a character ends a line. -/
def isLineEnd (c : Char) : Bool :=
  c == '\r' || c == '\n'

/-- Breaking a text loses nothing but the closing mark. -/
theorem eq_append_of_breakAt {mark : Char} {s content after : List Char}
    (h : breakAt mark s = some (content, after)) : s = content ++ mark :: after := by
  unfold breakAt at h
  split at h
  · rename_i hmem
    simp only [Option.some.injEq, Prod.mk.injEq] at h
    obtain ⟨rfl, rfl⟩ := h
    induction s with
    | nil => simp at hmem
    | cons c rest ih =>
      by_cases hc : c = mark
      · simp [hc]
      · have hrest : rest.contains mark = true := by
          simpa [Ne.symm hc] using hmem
        simpa [hc] using ih hrest
  · simp at h

/-- A broken text goes on with less than it had. -/
theorem length_lt_of_breakAt {mark : Char} {s content after : List Char}
    (h : breakAt mark s = some (content, after)) : after.length < s.length := by
  rw [eq_append_of_breakAt h]
  simp only [List.length_append, List.length_cons]
  omega

/-- Breaking off a comment loses nothing. -/
theorem breakComment_append (s : List Char) :
    (breakComment s).1 ++ (breakComment s).2 = s := by
  fun_induction breakComment s with
  | case1 => rfl
  | case2 rest => rfl
  | case3 c rest _ comment after h ih => simp_all

/-- What follows a comment is no longer than what it was broken off from. -/
theorem length_breakComment_le (s : List Char) : (breakComment s).2.length ≤ s.length := by
  have h := congrArg List.length (breakComment_append s)
  simp only [List.length_append] at h
  omega

/-- The lexemes of a text. -/
def lex : List Char → List Lexeme
  | [] => []
  | c :: rest =>
    match QuoteKind.ofChar? c with
    | some kind =>
      match h : breakAt kind.closing rest with
      | some (content, after) =>
        have : after.length < rest.length := length_lt_of_breakAt h
        .run kind content :: lex after
      | none => .live c :: lex rest
    | none =>
      match c, rest with
      | '-', '-' :: more =>
        have : (more.dropWhile fun d => !isLineEnd d).length ≤ more.length :=
          (List.dropWhile_sublist _).length_le
        .comment ('-' :: '-' :: more.takeWhile fun d => !isLineEnd d)
          :: lex (more.dropWhile fun d => !isLineEnd d)
      | '/', '*' :: more =>
        have : (breakComment more).2.length ≤ more.length := length_breakComment_le more
        .comment ('/' :: '*' :: (breakComment more).1) :: lex (breakComment more).2
      | c, rest => .live c :: lex rest
termination_by s => s.length
decreasing_by all_goals simp_all <;> omega

/-- The lexemes are the text: reading it drops nothing and adds nothing. -/
theorem flatMap_source_lex (s : List Char) : (lex s).flatMap Lexeme.source = s := by
  fun_induction lex s with
  | case1 => rfl
  | case2 c rest kind hkind content after h _ ih =>
    simp [Lexeme.source, ih, ← QuoteKind.opening_of_ofChar? hkind, eq_append_of_breakAt h]
  | case3 c rest kind hkind h ih => simp [Lexeme.source, ih]
  | case4 more _ _ ih => simp [Lexeme.source, ih]
  | case5 more _ _ ih => simp [Lexeme.source, ih, breakComment_append]
  | case6 c rest _ _ _ ih => simp [Lexeme.source, ih]

end Gate

end SqlCatalog
