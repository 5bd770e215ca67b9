import SqlCatalog.Proofs.Gate.Structural
import SqlCatalog.Proofs.Query.Clause
import SqlCatalog.Proofs.Query.Quoting
import SqlCatalog.Proofs.Text.Numerals

/-!
# Reading a Filter Clause

A clause of row filters as an engine reads it. It was meant to be one condition for every
filter, in order: the column of the table that the filter is about, quoted, and either a
test for null or an operator and a marker. The real columns are not checked against the
grammar of identifiers, and a database may hold columns of any name, so whether a clause is
read as it was meant is a question about the names of the columns. The answer is that a
clause is read as it was meant exactly when none of them holds the mark that closes a
quoted name.

## Main definitions

* `RowFilter.IsAbout`: The column of a table that a filter is about.
* `RowFilter.tokens`, `conditionTokens`: A condition, and conditions in a row, as they were
  meant.

## Theorems

* `writeTokens_conditions`: The text of conditions is that of their tokens.
* `tokens_whereClause`: When a clause is read as it was meant.
-/

namespace SqlCatalog

/-- A filter is about a column of the table if it names the column up to case. -/
structure RowFilter.IsAbout (columns : List Value) (f : RowFilter) (column : String) : Prop where
  real : .text column ∈ columns
  spelled : Text.lowercase column = Text.lowercase f.column.plain

/-! ### What was meant -/

namespace RowFilter

/-- What stands behind the column of a filter: a test for null, or an operator and the
    marker with the given number. -/
def testTokens (e : Engine) (f : RowFilter) (marker : Int) : List Token :=
  match f.operator with
  | .isNull => [.word "IS", .word "NULL"]
  | .isNotNull => [.word "IS", .word "NOT", .word "NULL"]
  | op => [.word (op.sign?.getD (e.likeOperator false)), .word (e.marker marker)]

/-- A filter as a condition on a column. -/
def tokens (e : Engine) (f : RowFilter) (column : String) (marker : Int) : List Token :=
  .name (e.fold column) :: f.testTokens e marker

end RowFilter

/-- Filters as conditions on their columns. The first condition stands behind the given
    word and any other one behind an `AND`, and markers are counted from the given number. -/
def conditionTokens (e : Engine) (before : String) (marker : Int) :
    List (RowFilter × String) → List Token
  | [] => []
  | (f, column) :: rest =>
    .word before :: f.tokens e column marker ++
      conditionTokens e "AND" (if f.binds then marker + 1 else marker) rest

/-- The names in conditions are those of the columns. -/
theorem name_mem_conditionTokens {e : Engine} {before : String} {marker : Int}
    {found : List (RowFilter × String)} {name : String} :
    .name name ∈ conditionTokens e before marker found ↔ ∃ p ∈ found, name = e.fold p.2 := by
  induction found generalizing before marker with
  | nil => simp [conditionTokens]
  | cons p rest ih =>
      obtain ⟨f, column⟩ := p
      have htest : .name name ∉ f.testTokens e marker := by
        unfold RowFilter.testTokens
        split <;> simp
      simp [conditionTokens, RowFilter.tokens, htest, ih]

/-! ### Every word is one word -/

/-- The fixed words of a clause. -/
def tokenWords : List String :=
  ["WHERE", "AND", "IS", "NOT", "NULL", "LIKE", "ILIKE", "=", "!=", ">", ">=", "<", "<="]

theorem isSound_of_mem_tokenWords (e : Engine) {word : String} (h : word ∈ tokenWords) :
    (Token.word word).IsSound e := by
  have hall : tokenWords.all fun w => !w.toList.isEmpty &&
      w.toList.all fun c => c != e.rules.openQuote && c != ' ' := by
    cases e <;> decide
  have hword := List.all_eq_true.mp hall word h
  simp only [Bool.and_eq_true, Bool.not_eq_true', List.isEmpty_eq_false_iff, List.all_eq_true,
    bne_iff_ne] at hword
  exact hword

theorem isSound_marker (e : Engine) (i : Int) : (Token.word (e.marker i)).IsSound e := by
  have htext : (e.marker i).toList = e.rules.markers.sigil ++
      if e.rules.markers = .question then [] else (toString i).toList := by
    unfold Engine.marker
    cases e.rules.markers <;> simp [MarkerStyle.sigil]
  have hsigil : e.rules.markers.sigil.all fun c => c != e.rules.openQuote && c != ' ' := by
    cases e <;> decide
  have hopen : e.rules.openQuote.isDigit = false ∧ e.rules.openQuote ≠ '-' := by
    cases e <;> decide
  -- Behind its sigil a marker has digits and perhaps a minus sign, none of which opens a name.
  refine ⟨?_, fun c hc => ?_⟩
  · rw [htext]
    exact fun h => Engine.sigil_ne_nil _ (List.append_eq_nil_iff.mp h).1
  · rw [htext, List.mem_append] at hc
    rcases hc with hc | hc
    · have := List.all_eq_true.mp hsigil c hc
      simpa using this
    · split at hc
      · exact absurd hc List.not_mem_nil
      · rcases isDigit_of_mem_toString i c hc with hdigit | rfl
        · refine ⟨fun h => ?_, fun h => ?_⟩
          · rw [h, hopen.1] at hdigit
            exact Bool.noConfusion hdigit
          · rw [h] at hdigit
            exact absurd hdigit (by decide)
        · exact ⟨fun h => hopen.2 h.symm, by decide⟩

theorem isSound_testTokens (e : Engine) (f : RowFilter) (marker : Int) :
    ∀ t ∈ f.testTokens e marker, t.IsSound e := by
  have hfixed : ∀ w ∈ tokenWords, (Token.word w).IsSound e :=
    fun _ => isSound_of_mem_tokenWords e
  have hlike : (Token.word (e.likeOperator false)).IsSound e := by
    unfold Engine.likeOperator
    split <;> exact hfixed _ (by decide)
  have hmarker := isSound_marker e marker
  unfold RowFilter.testTokens
  cases f.operator
  case isNull => simpa using ⟨hfixed "IS" (by decide), hfixed "NULL" (by decide)⟩
  case isNotNull =>
    simpa using ⟨hfixed "IS" (by decide), hfixed "NOT" (by decide), hfixed "NULL" (by decide)⟩
  case contains | startsWith | endsWith => simpa [FilterOperator.sign?] using ⟨hlike, hmarker⟩
  all_goals
    simp only [FilterOperator.sign?, Option.getD_some, List.forall_mem_cons]
    exact ⟨hfixed _ (by decide), hmarker, fun t ht => absurd ht List.not_mem_nil⟩

theorem isSound_conditionTokens {e : Engine} {before : String} (hbefore : before ∈ tokenWords)
    (marker : Int) (found : List (RowFilter × String)) :
    ∀ t ∈ conditionTokens e before marker found, t.IsSound e := by
  induction found generalizing before marker with
  | nil => exact fun t ht => absurd ht List.not_mem_nil
  | cons p rest ih =>
      obtain ⟨f, column⟩ := p
      intro t ht
      rcases List.mem_append.mp ht with hcondition | hrest
      · rcases List.mem_cons.mp hcondition with rfl | hcondition
        · exact isSound_of_mem_tokenWords e hbefore
        · rcases List.mem_cons.mp hcondition with rfl | htest
          · exact trivial
          · exact isSound_testTokens e f marker t htest
      · exact ih (by decide) _ t hrest

/-! ### The text of a clause -/

section Text

variable {e : Engine} {index : ColumnIndex}

theorem toList_render_nil (e : Engine) : (e.render []).toList = [] := rfl

/-- The text of a condition is that of its column and of what stands behind it. -/
theorem writeTokens_column {column : String} {test : List Token} {ps : List Piece}
    (h : e.writeTokens test = (e.render ps).toList) :
    e.writeTokens (.name (e.fold column) :: test) =
      ' ' :: (e.render (.name column :: ps)).toList := by
  rw [Engine.writeTokens_cons, h, Engine.toList_render_cons, Engine.writeToken, Engine.renderPiece,
    Engine.quote, String.toList_ofList, List.cons_append]

/-- The text of a condition is that of its tokens. -/
theorem writeTokens_condition {i : Int} {f : RowFilter} {c : Condition}
    (h : condition e index i f = .ok c) :
    ∃ column, index.require f.column = .ok column ∧
      e.writeTokens (f.tokens e column i) = ' ' :: (e.render c.pieces).toList ∧
      (c.args.length : Int) = if f.binds then 1 else 0 := by
  obtain ⟨column, hcolumn, h⟩ := ok_of_bind h
  refine ⟨column, hcolumn, ?_⟩
  unfold RowFilter.tokens RowFilter.testTokens RowFilter.binds
  cases hop : f.operator
  -- A pattern is made from a text only; of other operators the value does not matter.
  case contains | startsWith | endsWith =>
    rw [hop] at h
    cases hvalue : f.value with
    | text s =>
        rw [hvalue] at h
        rw [← Except.ok.inj h]
        refine ⟨writeTokens_column ?_, rfl⟩
        simp [Engine.writeTokens, Engine.writeToken, Engine.toList_render_cons, toList_render_nil,
          Engine.renderPiece, FilterOperator.sign?]
    | _ =>
        rw [hvalue] at h
        exact absurd h (by simp [FilterOperator.sign?, refuse])
  all_goals
    rw [hop] at h
    rw [← Except.ok.inj h]
    refine ⟨writeTokens_column ?_, rfl⟩
    simp [Engine.writeTokens, Engine.writeToken, Engine.toList_render_cons, toList_render_nil,
      Engine.renderPiece, FilterOperator.sign?]

/-- Conditions behind a word, if there are any. -/
def introduced (word : String) (cs : List Condition) : List Piece :=
  if cs.isEmpty then [] else .sql word :: conjunction cs

/-- The text of conditions is that of their tokens, by induction on the filters. -/
theorem writeTokens_conditions {filters : List (Outcome RowFilter)} {start : Int}
    {cs : List Condition} (h : conditions e index start filters = .ok cs) :
    ∃ found : List (RowFilter × String),
      filters = found.map (fun p => .ok p.1) ∧
      (∀ p ∈ found, index.require p.1.column = .ok p.2) ∧
      ∀ before, e.writeTokens (conditionTokens e before start found) =
        (e.render (introduced (" " ++ before ++ " ") cs)).toList := by
  induction filters generalizing start cs with
  | nil =>
      rw [← Except.ok.inj h]
      exact ⟨[], rfl, fun p hp => absurd hp List.not_mem_nil, fun before => rfl⟩
  | cons o rest ih =>
      obtain ⟨f, ho, h⟩ := ok_of_bind h
      obtain ⟨c, hc, h⟩ := ok_of_bind h
      obtain ⟨more, hmore, h⟩ := ok_of_bind h
      obtain ⟨column, hcolumn, htext, hargs⟩ := writeTokens_condition hc
      obtain ⟨found, hfilters, hfound, hrest⟩ := ih hmore
      refine ⟨(f, column) :: found, by rw [ho, hfilters]; rfl,
        List.forall_mem_cons.mpr ⟨hcolumn, hfound⟩, fun before => ?_⟩
      have hnext : start + (c.args.length : Int) = if f.binds then start + 1 else start := by
        rw [hargs]
        split
        · rfl
        · exact Int.add_zero start
      -- What follows the first condition stands behind an `AND`, which is what `joined` puts
      -- there.
      have hjoined : e.writeTokens (conditionTokens e "AND" (start + c.args.length) found) =
          (e.render (joined more)).toList := hrest "AND"
      have hword : (e.renderPiece (.sql (" " ++ before ++ " "))).toList =
          ' ' :: before.toList ++ [' '] := by
        simp [Engine.renderPiece]
      rw [← Except.ok.inj h]
      simp only [conditionTokens]
      rw [← hnext, List.cons_append, Engine.writeTokens_cons, Engine.writeTokens_append, htext,
        hjoined, introduced, if_neg (by simp), Engine.toList_render_cons, conjunction_cons,
        e.render_append, String.toList_append, hword, Engine.writeToken]
      simp

end Text

/-- The closing mark is in a name as it is in its spelling by the engine. -/
theorem closeQuote_mem_fold (e : Engine) (name : String) :
    e.rules.closeQuote ∈ (e.fold name).toList ↔ e.rules.closeQuote ∈ name.toList := by
  unfold Engine.fold
  split
  · rename_i hfolds
    have hmark : Gate.isStructural e.rules.closeQuote = true := by
      cases e <;> first | decide | exact absurd hfolds (by decide)
    rw [Text.uppercase, String.toList_ofList]
    exact Gate.mem_upper_iff hmark name.toList
  · exact Iff.rfl

/-- Whenever filters make a clause, every filter is about a column of the table, and the
    clause is read as one condition for each of them, in order, on the column that it is
    about, if and only if no such column holds the mark that closes a quoted name. -/
theorem tokens_whereClause {e : Engine} {filters : List (Outcome RowFilter)}
    {columns : List Value} {start : Int} {clause : WhereClause}
    (h : whereClause e filters columns start = .ok clause) :
    ∃ found : List (RowFilter × String),
      filters = found.map (fun p => .ok p.1) ∧
      (∀ p ∈ found, p.1.IsAbout columns p.2) ∧
      (e.tokens (e.render clause.pieces) = conditionTokens e "WHERE" start found ↔
        ∀ p ∈ found, e.rules.closeQuote ∉ p.2.toList) := by
  obtain ⟨index, hindex, h⟩ := ok_of_bind h
  obtain ⟨cs, hcs, h⟩ := ok_of_bind h
  obtain ⟨found, hfilters, hfound, htext⟩ := writeTokens_conditions hcs
  have habout (p : RowFilter × String) (hp : p ∈ found) : p.1.IsAbout columns p.2 := by
    obtain ⟨hreal, hspelled⟩ := ColumnIndex.real_of_require hindex (hfound p hp)
    exact ⟨hreal, hspelled⟩
  refine ⟨found, hfilters, habout, ?_⟩
  -- The clause lacks the blank before its first word, which a reader skips anyway.
  have hread : e.tokens (e.render clause.pieces) =
      e.readTokens (.word []) (e.writeTokens (conditionTokens e "WHERE" start found)) := by
    rw [htext, ← Except.ok.inj h, Engine.tokens, introduced]
    split
    · rfl
    · have hword : (e.renderPiece (.sql (" " ++ "WHERE" ++ " "))).toList =
          ' ' :: (e.renderPiece (.sql "WHERE ")).toList := by
        simp [Engine.renderPiece]
      rw [Engine.toList_render_cons, Engine.toList_render_cons, hword, List.cons_append,
        Engine.readTokens_blank]
  rw [hread, Engine.readTokens_writeTokens_iff (isSound_conditionTokens (by decide) start found)]
  constructor
  · intro hnames p hp hmark
    exact hnames (e.fold p.2) (name_mem_conditionTokens.mpr ⟨p, hp, rfl⟩)
      ((closeQuote_mem_fold e p.2).mpr hmark)
  · intro hcolumns name hname
    obtain ⟨p, hp, rfl⟩ := name_mem_conditionTokens.mp hname
    exact fun hmark => hcolumns p hp ((closeQuote_mem_fold e p.2).mp hmark)

/-- Columns with keywords, blanks and apostrophes in their names. -/
def oddColumns : List Value := [.text "name is null", .text "O'Clock; --"]

/-- A filter on each of them. -/
def oddFilters : List (Outcome RowFilter) := [
  .ok ⟨.text "NAME IS NULL", .isNotNull, .null⟩,
  .ok ⟨.text "o'clock; --", .contains, .text "x"⟩]

/-- None of them holds a double quote, so the clause is read as it was meant. -/
theorem tokens_oddFilters :
    ∃ clause found, whereClause .oracle oddFilters oddColumns 1 = .ok clause ∧
      oddFilters = found.map (fun p => .ok p.1) ∧
      Engine.oracle.tokens (Engine.oracle.render clause.pieces) =
        conditionTokens .oracle "WHERE" 1 found := by
  obtain ⟨clause, hclause⟩ : ∃ clause, whereClause .oracle oddFilters oddColumns 1 = .ok clause :=
    ⟨_, rfl⟩
  obtain ⟨found, hfilters, habout, hread⟩ := tokens_whereClause hclause
  refine ⟨clause, found, hclause, hfilters, hread.mpr fun p hp => ?_⟩
  have hreal := (habout p hp).real
  simp only [oddColumns, List.mem_cons, Value.text.injEq, List.not_mem_nil, or_false] at hreal
  rcases hreal with hcolumn | hcolumn <;> rw [hcolumn] <;> decide

/-- A name that closes the quotes around it and opens others. -/
def breakingName : String := "a\" IS NULL OR \"b"

/-- A filter on a column of that name. -/
def breakingFilter : RowFilter := ⟨.text breakingName, .eq, .int 1⟩

/-- The filter is not refused, and it is read as two conditions on other columns. -/
theorem breakingFilter_read_as_two :
    ∃ clause, whereClause .postgres [.ok breakingFilter] [.text breakingName] 1 = .ok clause ∧
      Engine.postgres.tokens (Engine.postgres.render clause.pieces) =
        [.word "WHERE", .name "a", .word "IS", .word "NULL", .word "OR", .name "b", .word "=",
          .word "$1"] ∧
      Engine.postgres.tokens (Engine.postgres.render clause.pieces) ≠
        conditionTokens .postgres "WHERE" 1 [(breakingFilter, breakingName)] := by
  refine ⟨_, rfl, rfl, fun h => ?_⟩
  -- One condition has four tokens.
  exact absurd (congrArg List.length h) (by decide)

end SqlCatalog
