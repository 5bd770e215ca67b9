import Mathlib.Order.Bounds.Basic
import SqlCatalog.Proofs.Gate.EscapedReading
import SqlCatalog.Proofs.Gate.LiteralContent

/-!
# Text Between Single Quotes

The scan for stacked semicolons walks through a text with a place that it keeps: outside a
literal, inside one, behind a backslash. What it has to find can be said without a place. A text
is made of characters outside quotes and of literals, and what a literal may hold is a grammar of
its own: a backslash together with the character behind it, or a character that is neither a
backslash nor a quote. A text can be taken apart in one way only, because a literal ends with
the first quote that is no part of an item.

The last literal may be unclosed and then takes all that is left, even a backslash with nothing
behind it.

A doubled quote needs no rule. It ends one literal and begins another, with nothing in between.

## Main definitions

* `LiteralBody`, `UnclosedBody`: What a literal holds, closed or unclosed.
* `Span`: A character outside quotes, or a literal.
* `Splits`: A text is made of spans.
* `IsLastMark`: The last character of a text that is not blank stands at a position.
* `semicolons`: The positions of the semicolons outside quotes.
* `separators`: The positions of those that separate two statements.
* `FindsLeast`: The least of a set of positions is found.

## Theorems

* `LiteralBody.breakLiteral`, `body_cases`: A literal ends as the grammar says.
* `exists_splits`, `Splits.unique`: A text is made of spans in one way.
* `findsLeast_stackedFrom`: The scan finds the first semicolon outside quotes, but one.
* `isLastMark_iff`: The one that it leaves out is the last character that is not blank.
* `stackedSemicolon_of_splits`: The scan finds the first separator, and nothing without one.
-/

namespace SqlCatalog

namespace Gate

/-- What stands between the quotes of a literal: a backslash takes the next character with it,
    and no other character is a quote or a backslash. -/
inductive LiteralBody : List Char → Prop
  | nil : LiteralBody []
  | plain {c : Char} {s : List Char} (hquote : c ≠ '\'') (hslash : c ≠ '\\') (h : LiteralBody s) :
      LiteralBody (c :: s)
  | escape (c : Char) {s : List Char} (h : LiteralBody s) : LiteralBody ('\\' :: c :: s)

/-- What stands behind the quote of a literal that is not closed: the same, except that at the
    end of the text a backslash may have nothing to take with it. -/
inductive UnclosedBody : List Char → Prop
  | nil : UnclosedBody []
  | dangling : UnclosedBody ['\\']
  | plain {c : Char} {s : List Char} (hquote : c ≠ '\'') (hslash : c ≠ '\\') (h : UnclosedBody s) :
      UnclosedBody (c :: s)
  | escape (c : Char) {s : List Char} (h : UnclosedBody s) : UnclosedBody ('\\' :: c :: s)

/-- What a text is made of: characters outside quotes and literals. -/
inductive Span where
  | unquoted (c : Char)
  | literal (body : List Char)
  | unclosed (body : List Char)

/-- The text of a span. -/
def Span.source : Span → List Char
  | .unquoted c => [c]
  | .literal body => '\'' :: (body ++ ['\''])
  | .unclosed body => '\'' :: body

/-- A text is made of spans, from its start to its end. -/
inductive Splits : List Char → List Span → Prop
  | nil : Splits [] []
  | unquoted {c : Char} {s : List Char} {spans : List Span} (hquote : c ≠ '\'')
      (h : Splits s spans) : Splits (c :: s) (.unquoted c :: spans)
  | literal {body s : List Char} {spans : List Span} (hbody : LiteralBody body)
      (h : Splits s spans) : Splits ('\'' :: (body ++ '\'' :: s)) (.literal body :: spans)
  | unclosed {body : List Char} (hbody : UnclosedBody body) :
      Splits ('\'' :: body) [.unclosed body]

/-- The last character of a text that is not blank stands at a position. -/
def IsLastMark (s : List Char) (i : Nat) : Prop :=
  (∃ c ∈ s[i]?, Text.isBlank c = false) ∧ ∀ j > i, ∀ c ∈ s[j]?, Text.isBlank c = true

/-- The positions of the semicolons outside quotes, when the first span stands at `index`. -/
def semicolons (index : Nat) (spans : List Span) : Set Nat :=
  {i | ∃ before after, spans = before ++ .unquoted ';' :: after ∧
    i = index + (before.flatMap Span.source).length}

/-- The positions of the semicolons that separate two statements: outside quotes, and not the
    last character that is not blank. -/
def separators (s : List Char) (spans : List Span) : Set Nat :=
  {i ∈ semicolons 0 spans | ¬IsLastMark s i}

/-! ### Literals -/

/-- A literal is broken off at the quote behind its body. -/
theorem LiteralBody.breakLiteral {body : List Char} (h : LiteralBody body) (after : List Char) :
    breakLiteral (body ++ '\'' :: after) = some (body, after) := by
  induction h with
  | nil => rfl
  | plain hquote hslash _ ih => simp [Gate.breakLiteral, hslash, ih]
  | escape c _ ih => simp [Gate.breakLiteral, ih]

theorem UnclosedBody.breakLiteral {body : List Char} (h : UnclosedBody body) :
    breakLiteral body = none := by
  induction h with
  | nil => rfl
  | dangling => rfl
  | plain hquote hslash _ ih => simp [Gate.breakLiteral, hslash, ih]
  | escape c _ ih => simp [Gate.breakLiteral, ih]

/-- What follows the quote of a literal is a body with a quote behind it, or an unclosed body. -/
theorem body_cases (s : List Char) :
    (∃ body after, LiteralBody body ∧ s = body ++ '\'' :: after) ∨ UnclosedBody s := by
  fun_induction Gate.breakLiteral s with
  | case1 => exact .inr .nil
  | case2 rest => exact .inl ⟨[], rest, .nil, rfl⟩
  | case3 c rest ih =>
      rcases ih with ⟨body, after, hbody, rfl⟩ | hrest
      · exact .inl ⟨_, after, hbody.escape c, rfl⟩
      · exact .inr (hrest.escape c)
  | case4 c rest hquote hescape ih =>
      by_cases hslash : c = '\\'
      · -- A backslash that takes nothing with it is the end of the text.
        obtain rfl : rest = [] := by
          cases rest with
          | nil => rfl
          | cons d more => exact absurd rfl (hescape d more hslash)
        exact .inr (hslash ▸ .dangling)
      · rcases ih with ⟨body, after, hbody, rfl⟩ | hrest
        · exact .inl ⟨_, after, hbody.plain hquote hslash, rfl⟩
        · exact .inr (hrest.plain hquote hslash)

/-! ### Taking a text apart -/

/-- The spans of a text are the text. -/
theorem Splits.flatMap_source {s : List Char} {spans : List Span} (h : Splits s spans) :
    spans.flatMap Span.source = s := by
  induction h with
  | nil => rfl
  | unquoted _ _ ih => rw [List.flatMap_cons, ih]; rfl
  | literal _ _ ih => rw [List.flatMap_cons, ih]; simp [Span.source]
  | unclosed _ => simp [Span.source]

/-- Every text can be taken apart, by induction on its length. -/
theorem exists_splits (s : List Char) : ∃ spans, Splits s spans := by
  induction hlength : s.length using Nat.strong_induction_on generalizing s with
  | _ n ih =>
  subst hlength
  match s with
  | [] => exact ⟨[], .nil⟩
  | c :: rest =>
      by_cases hquote : c = '\''
      · rw [hquote]
        rcases body_cases rest with ⟨body, after, hbody, rfl⟩ | hunclosed
        · obtain ⟨spans, hspans⟩ := ih _ (by simp; omega) after rfl
          exact ⟨_, hspans.literal hbody⟩
        · exact ⟨_, .unclosed hunclosed⟩
      · obtain ⟨spans, hspans⟩ := ih _ (by simp) rest rfl
        exact ⟨_, hspans.unquoted hquote⟩

/-- A text can be taken apart in one way only. -/
theorem Splits.unique {s : List Char} {spans others : List Span} (h : Splits s spans)
    (h' : Splits s others) : others = spans := by
  induction h generalizing others with
  | nil => cases h'; rfl
  | unquoted hquote _ ih =>
      cases h' with
      | unquoted _ h' => rw [ih h']
      | literal => exact absurd rfl hquote
      | unclosed => exact absurd rfl hquote
  | @literal body s spans hbody _ ih =>
      -- Both literals are broken off the same text.
      have hbreak := hbody.breakLiteral s
      generalize hs : body ++ '\'' :: s = rest at h' hbreak
      cases h' with
      | unquoted hquote => exact absurd rfl hquote
      | literal hbody' h' =>
          rw [hbody'.breakLiteral, Option.some.injEq, Prod.mk.injEq] at hbreak
          obtain ⟨rfl, rfl⟩ := hbreak
          rw [ih h']
      | unclosed hbody' =>
          rw [hbody'.breakLiteral] at hbreak
          exact absurd hbreak (by simp)
  | unclosed hbody =>
      have hbreak := hbody.breakLiteral
      cases h' with
      | unquoted hquote => exact absurd rfl hquote
      | literal hbody' =>
          rw [hbody'.breakLiteral] at hbreak
          exact absurd hbreak (by simp)
      | unclosed => rfl

/-! ### The scan -/

/-- The scan goes on behind a character that it does not look for where it stands. -/
theorem stackedFrom_of_ne {place : Place} {c : Char} (h : place ≠ .outside ∨ c ≠ ';')
    (size index : Nat) (rest : List Char) :
    stackedFrom size place index (c :: rest) =
      stackedFrom size (place.next c) (index + 1) rest := by
  rw [stackedFrom, if_neg]
  rcases h with h | h <;> simp [h]

/-- Inside a literal nothing is found. -/
theorem LiteralBody.stackedFrom {body : List Char} (h : LiteralBody body) (size index : Nat)
    (rest : List Char) :
    stackedFrom size .inside index (body ++ rest) =
      stackedFrom size .inside (index + body.length) rest := by
  have hinside : Place.inside ≠ .outside := by decide
  have hescaped : Place.escaped ≠ .outside := by decide
  induction h generalizing index with
  | nil => rfl
  | plain hquote hslash _ ih =>
      rw [List.cons_append, stackedFrom_of_ne (.inl hinside), next_inside hquote hslash, ih,
        List.length_cons, Nat.add_assoc, Nat.add_comm 1]
  | escape c _ ih =>
      rw [List.cons_append, List.cons_append, stackedFrom_of_ne (.inl hinside),
        show Place.next .inside '\\' = .escaped from rfl, stackedFrom_of_ne (.inl hescaped),
        show Place.next .escaped c = .inside from rfl, ih, List.length_cons, List.length_cons]
      congr 1
      omega

theorem UnclosedBody.stackedFrom {body : List Char} (h : UnclosedBody body) (size index : Nat) :
    stackedFrom size .inside index body = none := by
  have hinside : Place.inside ≠ .outside := by decide
  have hescaped : Place.escaped ≠ .outside := by decide
  induction h generalizing index with
  | nil => rfl
  | dangling => rfl
  | plain hquote hslash _ ih =>
      rw [stackedFrom_of_ne (.inl hinside), next_inside hquote hslash, ih]
  | escape c _ ih =>
      rw [stackedFrom_of_ne (.inl hinside), show Place.next .inside '\\' = .escaped from rfl,
        stackedFrom_of_ne (.inl hescaped), show Place.next .escaped c = .inside from rfl, ih]

/-- The least of a set of positions is found, and nothing when there is none. -/
def FindsLeast (positions : Set Nat) : Option Nat → Prop
  | none => positions = ∅
  | some i => IsLeast positions i

namespace FindsLeast

variable {positions : Set Nat} {result : Option Nat}

theorem eq_some_iff (h : FindsLeast positions result) (i : Nat) :
    result = some i ↔ IsLeast positions i := by
  cases result with
  | none =>
      obtain rfl : positions = ∅ := h
      exact ⟨fun hi => absurd hi (by simp), fun hi => absurd hi.1 (Set.notMem_empty i)⟩
  | some j =>
      exact ⟨fun hi => Option.some.inj hi ▸ h, fun hi => congrArg some (IsLeast.unique h hi)⟩

theorem eq_none_iff (h : FindsLeast positions result) : result = none ↔ positions = ∅ := by
  cases result with
  | none => exact ⟨fun _ => h, fun _ => rfl⟩
  | some j =>
      refine ⟨fun hnone => absurd hnone (by simp), ?_⟩
      rintro rfl
      exact absurd h.1 (Set.notMem_empty j)

end FindsLeast

/-- A semicolon outside quotes is the first span, or it stands in the others. -/
theorem mem_semicolons_cons {index i : Nat} {span : Span} {rest : List Span} :
    i ∈ semicolons index (span :: rest) ↔
      span = .unquoted ';' ∧ i = index ∨ i ∈ semicolons (index + span.source.length) rest := by
  constructor
  · rintro ⟨before, after, heq, rfl⟩
    cases before with
    | nil => exact .inl ⟨(List.cons.inj heq).1, rfl⟩
    | cons first before =>
        obtain ⟨rfl, rfl⟩ := List.cons.inj heq
        refine .inr ⟨before, after, rfl, ?_⟩
        rw [List.flatMap_cons, List.length_append, Nat.add_assoc]
  · rintro (⟨rfl, rfl⟩ | ⟨before, after, rfl, rfl⟩)
    · exact ⟨[], rest, rfl, rfl⟩
    · refine ⟨span :: before, after, rfl, ?_⟩
      rw [List.flatMap_cons, List.length_append, Nat.add_assoc]

theorem le_of_mem_semicolons {index i : Nat} {spans : List Span}
    (h : i ∈ semicolons index spans) : index ≤ i := by
  obtain ⟨before, after, -, rfl⟩ := h
  exact Nat.le_add_right _ _

theorem not_mem_semicolons_nil (index i : Nat) : i ∉ semicolons index [] := by
  rintro ⟨before, after, heq, -⟩
  exact absurd heq (by simp)

/-- A span that is no semicolon to be found leaves the positions to the spans behind it. -/
theorem semicolons_skip {span : Span} {rest : List Span} {index size : Nat}
    (h : span = .unquoted ';' → index + 1 = size) :
    {i ∈ semicolons index (span :: rest) | i + 1 ≠ size} =
      {i ∈ semicolons (index + span.source.length) rest | i + 1 ≠ size} := by
  ext i
  simp only [Set.mem_ofPred_eq, mem_semicolons_cons]
  constructor
  · rintro ⟨⟨hfirst, rfl⟩ | hrest, hsize⟩
    · exact absurd (h hfirst) hsize
    · exact ⟨hrest, hsize⟩
  · exact fun ⟨hrest, hsize⟩ => ⟨.inr hrest, hsize⟩

/-- The scan finds the first semicolon outside quotes that does not stand just before `size`,
    by induction on the spans. -/
theorem findsLeast_stackedFrom {s : List Char} {spans : List Span} (h : Splits s spans)
    (size index : Nat) :
    FindsLeast {i ∈ semicolons index spans | i + 1 ≠ size}
      (stackedFrom size .outside index s) := by
  induction h generalizing index with
  | nil =>
      exact Set.eq_empty_iff_forall_notMem.mpr fun i hi => not_mem_semicolons_nil index i hi.1
  | @unquoted c s spans hquote _ ih =>
      by_cases hfound : c = ';' ∧ index + 1 ≠ size
      · obtain ⟨rfl, hsize⟩ := hfound
        rw [stackedFrom, if_pos (by simp [hsize])]
        exact ⟨⟨mem_semicolons_cons.mpr (.inl ⟨rfl, rfl⟩), hsize⟩,
          fun i hi => le_of_mem_semicolons hi.1⟩
      · have hnext : Place.next .outside c = .outside := if_neg hquote
        have hlast (hspan : Span.unquoted c = .unquoted ';') : index + 1 = size := by
          by_contra hsize
          exact hfound ⟨Span.unquoted.inj hspan, hsize⟩
        rw [semicolons_skip hlast, stackedFrom, if_neg (by simpa using hfound), hnext]
        exact ih (index + 1)
  | @literal body s spans hbody _ ih =>
      have hlength : index + (Span.literal body).source.length = index + 1 + body.length + 1 := by
        simp only [Span.source, List.length_cons, List.length_append, List.length_nil]
        omega
      rw [semicolons_skip (fun hspan => by cases hspan), hlength, stackedFrom_quote,
        show Place.next .outside '\'' = .inside from rfl, hbody.stackedFrom, stackedFrom_quote]
      exact ih _
  | @unclosed body hbody =>
      rw [semicolons_skip (fun hspan => by cases hspan), stackedFrom_quote,
        show Place.next .outside '\'' = .inside from rfl, hbody.stackedFrom]
      exact Set.eq_empty_iff_forall_notMem.mpr fun i hi => not_mem_semicolons_nil _ i hi.1

/-! ### The last mark -/

theorem trimEnd_eq_nil_iff {s : List Char} :
    Text.trimEnd s = [] ↔ ∀ c ∈ s, Text.isBlank c = true := by
  simp [Text.trimEnd, List.dropWhile_eq_nil_iff]

/-- The scan knows the last character that is not blank by the length of the text without the
    blanks behind it. -/
theorem isLastMark_iff {c : Char} (hc : Text.isBlank c = false) (before after : List Char) :
    IsLastMark (before ++ c :: after) before.length ↔
      before.length + 1 = (Text.trimEnd (before ++ c :: after)).length := by
  have hafter : IsLastMark (before ++ c :: after) before.length ↔
      ∀ d ∈ after, Text.isBlank d = true := by
    constructor
    · rintro ⟨-, hlast⟩ d hd
      obtain ⟨k, hk⟩ := List.mem_iff_getElem?.mp hd
      refine hlast (before.length + 1 + k) (by omega) d ?_
      rw [List.getElem?_append_right (by omega), show before.length + 1 + k - before.length = k + 1
        by omega]
      exact hk
    · refine fun hblank => ⟨⟨c, by simp, hc⟩, fun j hj d hd => hblank d ?_⟩
      rw [List.getElem?_append_right (Nat.le_of_lt hj),
        show j - before.length = (j - before.length - 1) + 1 by omega] at hd
      exact List.mem_of_getElem? hd
  rw [hafter, ← trimEnd_eq_nil_iff, trimEnd_append_mark hc, List.length_append, List.length_cons,
    ← List.length_eq_zero_iff]
  omega

/-- The scan passes over one semicolon only, the one that is the last mark. -/
theorem separators_eq {s : List Char} {spans : List Span} (h : Splits s spans) :
    separators s spans =
      {i ∈ semicolons 0 spans | i + 1 ≠ (Text.trimEnd s).length} := by
  ext i
  refine and_congr_right fun ⟨before, after, hspans, hi⟩ => not_congr ?_
  have htext : s = before.flatMap Span.source ++ ';' :: after.flatMap Span.source := by
    rw [← h.flatMap_source, hspans, List.flatMap_append, List.flatMap_cons]
    rfl
  rw [hi, Nat.zero_add, htext]
  exact isLastMark_iff (by decide) _ _

/-- The scan matches the grammar of quoted text. A text is made of unquoted characters and
    literals in one way only, and the scan finds the least position of a semicolon among the
    unquoted characters that is not the last character of the text that is not blank. It finds
    nothing if and only if there is no such semicolon. -/
theorem stackedSemicolon_of_splits (s : List Char) :
    ∃ spans, Splits s spans ∧ (∀ others, Splits s others → others = spans) ∧
      (∀ i, stackedSemicolon? s = some i ↔ IsLeast (separators s spans) i) ∧
      (stackedSemicolon? s = none ↔ separators s spans = ∅) := by
  obtain ⟨spans, hspans⟩ := exists_splits s
  have hfinds : FindsLeast (separators s spans) (stackedSemicolon? s) := by
    rw [separators_eq hspans]
    exact findsLeast_stackedFrom hspans _ 0
  exact ⟨spans, hspans, fun others hothers => hspans.unique hothers,
    fun i => hfinds.eq_some_iff i, hfinds.eq_none_iff⟩

/-- An escaped quote does not end the literal, so the semicolon behind it is part of the text. -/
example : stackedSemicolon? "'a\\';b' ; x".toList = some 8 := by decide

end Gate

end SqlCatalog
