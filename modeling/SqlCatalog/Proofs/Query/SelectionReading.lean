import SqlCatalog.Proofs.Query.ClauseReading
import SqlCatalog.Proofs.Query.PieceReading
import SqlCatalog.Proofs.Query.SelectedRows
import SqlCatalog.Proofs.Text.Numerals

/-!
# Reading a Selection Back

Some parts of a selection may be missing: the schema, the columns, the order. What is missing is
left out of the text or, for an engine that wants an order, replaced by one that means nothing. So
it is not plain that two selections with one text ask for the same rows.

They do, because a text is read as it was written. The names in it are valid identifiers, so its
tokens are those of its pieces, and from the tokens every part can be told: the columns are the
names before the first `FROM`, a schema is followed by a point, and no name is read where an
engine's neutral order stands. What cannot be told is what the text does not say: the case of a
name on an engine that folds names, and a schema on an engine without schemas.

## Main definitions

* `Selected.tokens`: What is asked for as the tokens of a text.

## Theorems

* `Selected.legible_pieces`: What is asked for is legible in writing.
* `Selected.tokens_render`: The text of what is asked for has the tokens that were meant.
* `Selected.seenBy_of_tokens`: The tokens tell what was asked for.
* `selection_read_back`: Selections with one text ask for the same rows.
-/

namespace SqlCatalog

/-! ### Numbers -/

/-- No number holds a mark that quotes a name. -/
theorem isPlainText_number (e : Engine) (i : Int) : e.isPlainText (toString i) = true := by
  obtain ⟨⟨hopen, hopen'⟩, hclose, hclose'⟩ :
      (e.rules.openQuote.isDigit = false ∧ e.rules.openQuote ≠ '-') ∧
        e.rules.closeQuote.isDigit = false ∧ e.rules.closeQuote ≠ '-' := by
    cases e <;> decide
  have hnumber {mark : Char} (hdigit : mark.isDigit = false) (hminus : mark ≠ '-') :
      ∀ c ∈ (toString i).toList, c ≠ mark := by
    rintro c hc rfl
    rcases isDigit_of_mem_toString i c hc with hc | hc
    · rw [hdigit] at hc
      cases hc
    · exact hminus hc
  exact Engine.isPlainText_iff.mpr ⟨toList_number_ne_nil i, fun c hc =>
    ⟨hnumber hopen hopen' c hc, hnumber hclose hclose' c hc⟩⟩

/-- A number is one word, and goes on with what stands before it. -/
theorem readWords_number (before : List Char) (i : Int) :
    readWords before (toString i).toList = ([], before ++ (toString i).toList) := by
  refine readWords_of_blankless (fun hblank => ?_) before
  rcases isDigit_of_mem_toString i ' ' hblank with h | h
  · exact absurd h (by decide)
  · exact absurd h (by decide)

theorem ofWord_number (i : Int) : Token.ofWord (toString i).toList = [.word (toString i)] := by
  have hnil : ¬(toString i).toList.isEmpty = true := by
    rw [List.isEmpty_iff]
    exact toList_number_ne_nil i
  rw [Token.ofWord, if_neg hnil, String.ofList_toList]

namespace Selected

variable {e : Engine} {w : Selected}

/-! ### What is asked for can be read -/

/-- The fixed texts of a selection. -/
def fixedTexts : List String :=
  ["SELECT ", "*", ", ", " FROM ", ".", " ", "ORDER BY ", " ASC", " DESC", "LIMIT ", " OFFSET ",
    " ROWS FETCH NEXT ", " ROWS ONLY"]

theorem isPlainText_of_mem (e : Engine) {text : String} (h : text ∈ fixedTexts) :
    e.isPlainText text = true := by
  have hall : fixedTexts.all e.isPlainText = true := by
    cases e <;> decide
  exact List.all_eq_true.mp hall text h

/-- An order is legible before a text. -/
theorem legible_order (e : Engine) {order : Option (String × String)} (h : IsOrder order) :
    e.Legible (orderPieces order) := by
  rcases order with _ | ⟨c, direction⟩
  · trivial
  · obtain ⟨hname, hdirection⟩ := h c direction rfl
    refine ⟨hname, by simp, ?_, trivial⟩
    rcases hdirection with rfl | rfl
    · exact isPlainText_of_mem e (by decide)
    · exact isPlainText_of_mem e (by decide)

/-- So is a window with it. -/
theorem legible_window (e : Engine) {order : Option (String × String)} (limit offset : Int)
    (h : IsOrder order) :
    e.Legible (e.window (toString limit) (toString offset) (orderPieces order)) := by
  have horder := legible_order e h
  have hfixed {text : String} (htext : text ∈ fixedTexts) := isPlainText_of_mem e htext
  have hlimit := isPlainText_number e limit
  have hoffset := isPlainText_number e offset
  have hby : e.isPlainText "ORDER BY " = true := hfixed (by decide)
  unfold Engine.window
  split
  · have hclause : e.isPlainText ("LIMIT " ++ toString limit ++ " OFFSET " ++ toString offset) =
        true :=
      Engine.isPlainText_append (Engine.isPlainText_append (Engine.isPlainText_append
        (hfixed (by decide)) hlimit) (hfixed (by decide))) hoffset
    dsimp only
    split
    · exact ⟨hclause, trivial⟩
    · exact ⟨hby, horder.append ⟨hfixed (by decide), hclause, trivial⟩ (by simp)⟩
  · rename_i neutral hneutral
    have hplain : e.isPlainText neutral = true := by
      cases e <;> cases hneutral <;> decide
    have hclause : e.isPlainText (" OFFSET " ++ toString offset ++ " ROWS FETCH NEXT " ++
        toString limit ++ " ROWS ONLY") = true :=
      Engine.isPlainText_append (Engine.isPlainText_append (Engine.isPlainText_append
        (Engine.isPlainText_append (hfixed (by decide)) hoffset) (hfixed (by decide))) hlimit)
        (hfixed (by decide))
    refine ⟨hby, Engine.Legible.append ?_ ⟨hclause, trivial⟩ (by simp)⟩
    split
    · exact ⟨hplain, trivial⟩
    · exact horder

/-- So are columns before a text, by induction on the columns. -/
theorem legible_columns (e : Engine) {columns : List String}
    (h : ∀ c ∈ columns, Identifier.isName c.toList = true) : e.Legible (columnPieces columns) := by
  unfold columnPieces
  split
  · exact ⟨isPlainText_of_mem e (by decide), trivial⟩
  · induction columns with
    | nil => trivial
    | cons c rest ih =>
        obtain ⟨hc, hrest⟩ := List.forall_mem_cons.mp h
        cases rest with
        | nil => exact ⟨hc, by simp, trivial⟩
        | cons next more =>
            exact ⟨hc, by simp, isPlainText_of_mem e (by decide), ih hrest (by simp)⟩

/-- So is a table behind its schema. -/
theorem legible_qualified (e : Engine) {schema table : String}
    (hschema : Identifier.IsSchema schema) (htable : Identifier.isName table.toList = true) :
    e.Legible (e.qualified schema table) := by
  unfold Engine.qualified
  split
  · exact ⟨htable, by simp, trivial⟩
  · rename_i hpresent
    have hgiven : schema ≠ "" := fun hnone => hpresent (by simp [hnone])
    exact ⟨hschema.resolve_left hgiven, by simp, isPlainText_of_mem e (by decide), htable,
      by simp, trivial⟩

/-- What is asked for is legible in writing. -/
theorem legible_pieces (e : Engine) (h : w.IsValid) : e.Legible (w.pieces e) := by
  have hfixed {text : String} (htext : text ∈ fixedTexts) := isPlainText_of_mem e htext
  have hwindow := legible_window e w.limit w.offset h.order
  refine ⟨hfixed (by decide), (legible_columns e h.columns).append ⟨hfixed (by decide), ?_⟩
    (by simp)⟩
  exact (legible_qualified e h.schema h.table).append ⟨hfixed (by decide), hwindow⟩ (by simp)

/-! ### The tokens that were meant -/

/-- The columns that are asked for, with commas between them. -/
def columnTokens (e : Engine) : List String → List Token
  | [] => [.word "*"]
  | [c] => [.name (e.fold c)]
  | c :: next :: rest => .name (e.fold c) :: .word "," :: columnTokens e (next :: rest)

/-- The table that is asked for, behind its schema. -/
def tableTokens (e : Engine) (w : Selected) : List Token :=
  if w.schema = "" || !e.supports .schemas then [.name (e.fold w.table)]
  else [.name (e.fold w.schema), .word ".", .name (e.fold w.table)]

/-- The words of a text. -/
def wordTokens (text : String) : List Token :=
  (readWords [] text.toList).1 ++ Token.ofWord (readWords [] text.toList).2

/-- The order that is asked for, or the neutral one where an order is needed. -/
def orderTokens (e : Engine) : Option (String × String) → List Token
  | some (c, direction) => [.word "ORDER", .word "BY", .name (e.fold c), .word direction]
  | none =>
    match e.rules.window with
    | .limit => []
    | .fetch neutral => .word "ORDER" :: .word "BY" :: wordTokens neutral

/-- The numbers of rows to take and to skip. -/
def boundTokens (e : Engine) (limit offset : Int) : List Token :=
  match e.rules.window with
  | .limit =>
    [.word "LIMIT", .word (toString limit), .word "OFFSET", .word (toString offset)]
  | .fetch _ =>
    [.word "OFFSET", .word (toString offset), .word "ROWS", .word "FETCH", .word "NEXT",
      .word (toString limit), .word "ROWS", .word "ONLY"]

/-- What is asked for as the tokens of a text. -/
def tokens (e : Engine) (w : Selected) : List Token :=
  .word "SELECT" :: (columnTokens e w.columns ++ .word "FROM" :: (tableTokens e w ++
    (orderTokens e w.order ++ boundTokens e w.limit w.offset)))

/-- Columns are read in order, by induction on the columns. -/
theorem readPieces_columns (e : Engine) (columns : List String) (ps : List Piece) :
    e.readPieces [] (columnPieces columns ++ .sql " FROM " :: ps) =
      columnTokens e columns ++ .word "FROM" :: e.readPieces [] ps := by
  have hfrom (before : List Char) :
      readWords before " FROM ".toList = (Token.ofWord before ++ [.word "FROM"], []) := rfl
  induction columns with
  | nil =>
      change e.readPieces [] (.sql "*" :: .sql " FROM " :: ps) = _
      rw [e.readPieces_sql (show readWords [] "*".toList = ([], ['*']) from rfl),
        e.readPieces_sql (hfrom _)]
      rfl
  | cons c rest ih =>
      cases rest with
      | nil =>
          change e.readPieces [] (.name c :: .sql " FROM " :: ps) = _
          rw [e.readPieces_name, e.readPieces_sql (hfrom _)]
          rfl
      | cons next more =>
          change e.readPieces [] (.name c :: .sql ", " ::
            (columnPieces (next :: more) ++ .sql " FROM " :: ps)) = _
          rw [e.readPieces_name,
            e.readPieces_sql (show readWords [] ", ".toList = ([.word ","], []) from rfl), ih]
          rfl

theorem readPieces_qualified (e : Engine) (w : Selected) (ps : List Piece) :
    e.readPieces [] (e.qualified w.schema w.table ++ .sql " " :: ps) =
      tableTokens e w ++ e.readPieces [] ps := by
  have hblank : readWords [] " ".toList = ([], []) := rfl
  unfold Engine.qualified tableTokens
  split
  · rw [List.singleton_append, e.readPieces_name, e.readPieces_sql hblank]
    rfl
  · change e.readPieces [] (.name w.schema :: .sql "." :: .name w.table :: .sql " " :: ps) = _
    rw [e.readPieces_name, e.readPieces_sql (show readWords [] ".".toList = ([], ['.']) from rfl),
      e.readPieces_name, e.readPieces_sql hblank]
    rfl

/-- Rows to take and to skip, where they stand behind a limit. -/
theorem readWords_limit (limit offset : Int) :
    readWords [] ("LIMIT " ++ toString limit ++ " OFFSET " ++ toString offset).toList =
      ([.word "LIMIT", .word (toString limit), .word "OFFSET"], (toString offset).toList) := by
  have hlimit : readWords [] "LIMIT ".toList = ([.word "LIMIT"], []) := rfl
  have hoffset (before : List Char) :
      readWords before " OFFSET ".toList = (Token.ofWord before ++ [.word "OFFSET"], []) := rfl
  simp only [String.toList_append, readWords_append, hlimit, hoffset, readWords_number,
    List.nil_append, ofWord_number]
  rfl

/-- The same where they are fetched behind an order. -/
theorem readWords_fetch (before : List Char) (limit offset : Int) :
    readWords before (" OFFSET " ++ toString offset ++ " ROWS FETCH NEXT " ++ toString limit ++
        " ROWS ONLY").toList =
      (Token.ofWord before ++ [.word "OFFSET", .word (toString offset), .word "ROWS",
        .word "FETCH", .word "NEXT", .word (toString limit), .word "ROWS"], "ONLY".toList) := by
  have hoffset (before : List Char) :
      readWords before " OFFSET ".toList = (Token.ofWord before ++ [.word "OFFSET"], []) := rfl
  have hnext (before : List Char) : readWords before " ROWS FETCH NEXT ".toList =
      (Token.ofWord before ++ [.word "ROWS", .word "FETCH", .word "NEXT"], []) := rfl
  have honly (before : List Char) : readWords before " ROWS ONLY".toList =
      (Token.ofWord before ++ [.word "ROWS"], "ONLY".toList) := rfl
  simp only [String.toList_append, readWords_append, hoffset, hnext, honly, readWords_number,
    List.nil_append, ofWord_number, List.append_assoc]
  rfl

/-- A window is read as its order and its numbers. -/
theorem readPieces_window (e : Engine) {order : Option (String × String)} (limit offset : Int)
    (h : IsOrder order) :
    e.readPieces [] (e.window (toString limit) (toString offset) (orderPieces order)) =
      orderTokens e order ++ boundTokens e limit offset := by
  have hdirection : ∀ c direction, order = some (c, direction) →
      readWords [] (" " ++ direction).toList = ([], direction.toList) ∧
        Token.ofWord direction.toList = [.word direction] := by
    intro c direction horder
    rcases (h c direction horder).2 with rfl | rfl <;> exact ⟨rfl, rfl⟩
  have hby : readWords [] "ORDER BY ".toList = ([.word "ORDER", .word "BY"], []) := rfl
  have hblank (before : List Char) :
      readWords before " ".toList = (Token.ofWord before, []) := by
    exact congrArg (·, []) (List.append_nil _)
  -- Where rows are limited the order may be missing. Where they are fetched another stands for it.
  unfold Engine.window boundTokens
  rcases hwindow : e.rules.window with _ | neutral
  · have hlimit := readWords_limit limit offset
    rcases order with _ | ⟨c, direction⟩
    · change e.readPieces [] [.sql _] = _
      rw [e.readPieces_sql hlimit, Engine.readPieces, ofWord_number, orderTokens]
      simp only [hwindow]
      rfl
    · obtain ⟨hread, hword⟩ := hdirection c direction rfl
      change e.readPieces [] [.sql "ORDER BY ", .name c, .sql (" " ++ direction), .sql " ",
        .sql _] = _
      rw [e.readPieces_sql hby, e.readPieces_name, e.readPieces_sql hread,
        e.readPieces_sql (hblank _), hword, e.readPieces_sql hlimit, Engine.readPieces,
        ofWord_number]
      rfl
  · rcases order with _ | ⟨c, direction⟩
    · change e.readPieces [] [.sql "ORDER BY ", .sql neutral, .sql _] = _
      rw [e.readPieces_sql hby, e.readPieces_sql (Prod.eta _).symm,
        e.readPieces_sql (readWords_fetch _ limit offset), orderTokens]
      simp only [hwindow, wordTokens, List.append_assoc, List.cons_append, List.nil_append]
      rfl
    · obtain ⟨hread, hword⟩ := hdirection c direction rfl
      change e.readPieces [] [.sql "ORDER BY ", .name c, .sql (" " ++ direction), .sql _] = _
      rw [e.readPieces_sql hby, e.readPieces_name, e.readPieces_sql hread,
        e.readPieces_sql (readWords_fetch _ limit offset), hword]
      rfl

/-- The text of what is asked for has the tokens that were meant. -/
theorem tokens_render (e : Engine) (h : w.IsValid) :
    e.tokens (e.render (w.pieces e)) = w.tokens e := by
  have hselect : readWords [] "SELECT ".toList = ([.word "SELECT"], []) := rfl
  rw [Engine.tokens_render (legible_pieces e h), pieces, e.readPieces_sql hselect,
    readPieces_columns, readPieces_qualified, readPieces_window e w.limit w.offset h.order]
  rfl

/-! ### The tokens tell what was asked for -/

variable {w' : Selected}

/-- The content of a name. -/
def content? : Token → Option String
  | .name content => some content
  | _ => none

/-- The columns are the names before the table, by induction on the columns. -/
theorem contents_columnTokens (e : Engine) (columns : List String) :
    (columnTokens e columns).filterMap content? = columns.map e.fold := by
  induction columns with
  | nil => rfl
  | cons c rest ih =>
      cases rest with
      | nil => rfl
      | cons next more => exact congrArg (e.fold c :: ·) ih

theorem from_not_mem_columnTokens (e : Engine) (columns : List String) :
    .word "FROM" ∉ columnTokens e columns := by
  induction columns with
  | nil => simp [columnTokens]
  | cons c rest ih =>
      cases rest with
      | nil => simp [columnTokens]
      | cons next more => simpa [columnTokens] using ih

/-- What comes before the first of something is told, whatever follows it. -/
theorem append_cons_inj_of_first {t : Token} {before before' after after' : List Token}
    (hbefore : t ∉ before) (hbefore' : t ∉ before')
    (h : before ++ t :: after = before' ++ t :: after') : before = before' ∧ after = after' := by
  -- Taking everything up to the first gives back what stands before it.
  have htake {ts : List Token} (hts : t ∉ ts) (us : List Token) :
      (ts ++ t :: us).takeWhile (· != t) = ts := by
    rw [List.takeWhile_append_of_pos fun u hu => by simpa using ne_of_mem_of_not_mem hu hts]
    simp
  have hsame : before = before' := by
    rw [← htake hbefore after, h, htake hbefore']
  subst hsame
  exact ⟨rfl, (List.cons.inj (List.append_cancel_left h)).2⟩

/-- No name stands in a neutral order or behind it. -/
theorem name_not_mem_window (e : Engine) (limit offset : Int) (c : String) :
    .name c ∉ orderTokens e none ++ boundTokens e limit offset := by
  rcases hwindow : e.rules.window with _ | neutral
  · simp [orderTokens, boundTokens, hwindow]
  · have hwords : .name c ∉ wordTokens neutral := by
      intro hname
      rcases List.mem_append.mp hname with hname | hname
      · obtain ⟨text, htext⟩ := word_of_mem_readWords hname
        cases htext
      · obtain ⟨text, htext⟩ := word_of_mem_ofWord hname
        cases htext
    simp [orderTokens, boundTokens, hwindow, hwords]

/-- The numbers of a window are told by its words. -/
theorem boundTokens_inj {limit limit' offset offset' : Int}
    (h : boundTokens e limit offset = boundTokens e limit' offset') :
    limit = limit' ∧ offset = offset' := by
  unfold boundTokens at h
  split at h
  · simp only [List.cons.injEq, Token.word.injEq] at h
    exact ⟨number_inj h.2.1, number_inj h.2.2.2.1⟩
  · simp only [List.cons.injEq, Token.word.injEq] at h
    exact ⟨number_inj h.2.2.2.2.2.1, number_inj h.2.1⟩

/-- So is its order. -/
theorem window_inj {order order' : Option (String × String)} {limit limit' offset offset' : Int}
    (h : orderTokens e order ++ boundTokens e limit offset =
      orderTokens e order' ++ boundTokens e limit' offset') :
    order.map (fun o => (e.fold o.1, o.2)) = order'.map (fun o => (e.fold o.1, o.2)) ∧
      limit = limit' ∧ offset = offset' := by
  rcases order with _ | ⟨c, direction⟩
  · rcases order' with _ | ⟨c', direction'⟩
    · exact ⟨rfl, boundTokens_inj (List.append_cancel_left h)⟩
    · exact absurd (h ▸ by simp [orderTokens]) (name_not_mem_window e limit offset (e.fold c'))
  · rcases order' with _ | ⟨c', direction'⟩
    · exact absurd (h ▸ by simp [orderTokens]) (name_not_mem_window e limit' offset' (e.fold c))
    · simp only [orderTokens, List.cons_append, List.nil_append, List.cons.injEq, true_and,
        Token.name.injEq, Token.word.injEq] at h
      obtain ⟨hname, hdirection, hbounds⟩ := h
      refine ⟨?_, boundTokens_inj hbounds⟩
      rw [Option.map_some, Option.map_some, hname, hdirection]

/-- No point stands where a window begins. -/
theorem head?_window (e : Engine) (order : Option (String × String)) (limit offset : Int) :
    (orderTokens e order ++ boundTokens e limit offset).head? ≠ some (.word ".") := by
  rcases order with _ | ⟨c, direction⟩
  · unfold orderTokens boundTokens
    rcases e.rules.window with _ | neutral <;> simp
  · simp [orderTokens]

/-- A table stands alone or behind the schema that is seen. -/
theorem tableTokens_cases (e : Engine) (w : Selected) :
    ((w.seenBy e).schema = "" ∧ tableTokens e w = [.name (w.seenBy e).table]) ∨
      tableTokens e w = [.name (w.seenBy e).schema, .word ".", .name (w.seenBy e).table] := by
  have hspelling (name : String) : e.spelling name = e.fold name := congrFun e.spelling_eq_fold name
  unfold tableTokens seenBy
  by_cases hschemas : e.supports .schemas = true
  · by_cases hschema : w.schema = ""
    · have hnone : e.spelling "" = "" := by
        cases e <;> decide
      simp [hschema, hschemas, hnone, hspelling]
    · simp [hschema, hschemas, hspelling]
  · simp [hschemas, hspelling]

/-- A table is told from what follows it, and with it the schema. -/
theorem tableTokens_inj {ts ts' : List Token} (hts : ts.head? ≠ some (.word "."))
    (hts' : ts'.head? ≠ some (.word "."))
    (h : tableTokens e w ++ ts = tableTokens e w' ++ ts') :
    (w.seenBy e).table = (w'.seenBy e).table ∧ (w.seenBy e).schema = (w'.seenBy e).schema ∧
      ts = ts' := by
  rcases tableTokens_cases e w with ⟨hnone, halone⟩ | hbehind
  · rw [halone, List.singleton_append] at h
    rcases tableTokens_cases e w' with ⟨hnone', halone'⟩ | hbehind'
    · rw [halone', List.singleton_append] at h
      obtain ⟨htable, hrest⟩ := List.cons.inj h
      exact ⟨Token.name.inj htable, hnone.trans hnone'.symm, hrest⟩
    · rw [hbehind'] at h
      exact absurd ((List.cons.inj h).2 ▸ rfl) hts
  · rw [hbehind] at h
    rcases tableTokens_cases e w' with ⟨-, halone'⟩ | hbehind'
    · rw [halone', List.singleton_append] at h
      exact absurd ((List.cons.inj h).2.symm ▸ rfl) hts'
    · rw [hbehind'] at h
      simp only [List.cons_append, List.nil_append, List.cons.injEq, Token.name.injEq, true_and]
        at h
      obtain ⟨hschema, htable, hrest⟩ := h
      exact ⟨htable, hschema, hrest⟩

/-- The tokens tell what was asked for. -/
theorem seenBy_of_tokens (h : w.tokens e = w'.tokens e) : w.seenBy e = w'.seenBy e := by
  have hcolumns (w : Selected) :
      (w.seenBy e).columns = (columnTokens e w.columns).filterMap content? := by
    rw [contents_columnTokens, ← e.spelling_eq_fold]
    rfl
  have horder (w : Selected) :
      (w.seenBy e).order = w.order.map fun o => (e.fold o.1, o.2) := by
    rw [← e.spelling_eq_fold]
    rfl
  -- The first `FROM` is the one behind the columns.
  obtain ⟨hselected, hfrom⟩ := append_cons_inj_of_first (from_not_mem_columnTokens e w.columns)
    (from_not_mem_columnTokens e w'.columns) (List.cons.inj h).2
  obtain ⟨htable, hschema, hwindow⟩ := tableTokens_inj
    (head?_window e w.order w.limit w.offset) (head?_window e w'.order w'.limit w'.offset) hfrom
  obtain ⟨hsorted, hlimit, hoffset⟩ := window_inj hwindow
  have hcolumns : (w.seenBy e).columns = (w'.seenBy e).columns := by
    rw [hcolumns, hcolumns, hselected]
  have horder : (w.seenBy e).order = (w'.seenBy e).order := by
    rw [horder, horder, hsorted]
  exact Selected.ext htable hschema hcolumns horder hlimit hoffset

end Selected

/-- Selections with one text ask for the same rows, as far as the engine tells them apart. What
    their text is read as is what they ask for: words, and valid identifiers in quotes. -/
theorem selection_read_back {e : Engine} {s s' : Build.Selection} {q q' : Query}
    (hs : s.IsPlain) (hs' : s'.IsPlain) (h : Build.selectRows e s = .ok (some q))
    (h' : Build.selectRows e s' = .ok (some q')) :
    ∃ w w' : Selected, s.Asks w ∧ s'.Asks w' ∧
      (q.sql e = q'.sql e → w.seenBy e = w'.seenBy e) ∧
      e.tokens (q.sql e) = w.tokens e ∧
      ∀ t ∈ e.tokens (q.sql e), (∃ word, t = .word word) ∨
        ∃ n : String, Identifier.isName n.toList = true ∧ t = .name (e.fold n) := by
  obtain ⟨w, hw, hpieces⟩ := Build.pieces_of_isPlain hs h
  obtain ⟨w', hw', hpieces'⟩ := Build.pieces_of_isPlain hs' h'
  have hvalid := hw.isValid hs
  have htokens : e.tokens (q.sql e) = w.tokens e := by
    rw [Query.sql, hpieces, Selected.tokens_render e hvalid]
  have htokens' : e.tokens (q'.sql e) = w'.tokens e := by
    rw [Query.sql, hpieces', Selected.tokens_render e (hw'.isValid hs')]
  refine ⟨w, w', hw, hw', fun htext => ?_, htokens, fun t ht => ?_⟩
  · exact Selected.seenBy_of_tokens (htokens.symm.trans (htext ▸ htokens'))
  · have hlegible := Selected.legible_pieces e hvalid
    rw [Query.sql, hpieces, Engine.tokens_render hlegible] at ht
    exact Engine.names_readPieces hlegible ht

/-- A selection with everything that a text can say, in mixed case. -/
def mixedCaseSelection : Build.Selection where
  table := .text "Item"
  schema := .text "Shop"
  columns := .list [.text "id", .text "Due"]
  orderBy := .text "due"
  direction := "DESC"
  window := ⟨.int 5, .int 10⟩

/-- The same selection in upper case. -/
def upperCaseSelection : Build.Selection where
  table := .text "ITEM"
  schema := .text "SHOP"
  columns := .list [.text "ID", .text "DUE"]
  orderBy := .text "DUE"
  direction := "DESC"
  window := ⟨.int 5, .int 10⟩

/-- Oracle does not tell them apart. -/
theorem selection_read_back_upper_case :
    mixedCaseSelection.IsPlain ∧ upperCaseSelection.IsPlain ∧
    ∃ q q' w w', Build.selectRows .oracle mixedCaseSelection = .ok (some q) ∧
      Build.selectRows .oracle upperCaseSelection = .ok (some q') ∧
      q.sql .oracle = q'.sql .oracle ∧ mixedCaseSelection.Asks w ∧ upperCaseSelection.Asks w' ∧
      w.seenBy .oracle = w'.seenBy .oracle := by
  have hs : mixedCaseSelection.IsPlain := ⟨rfl, ⟨.text "desc", rfl⟩, ⟨5, rfl⟩, ⟨10, rfl⟩⟩
  have hs' : upperCaseSelection.IsPlain := ⟨rfl, ⟨.text "DESC", rfl⟩, ⟨5, rfl⟩, ⟨10, rfl⟩⟩
  obtain ⟨q, hq⟩ : ∃ q, Build.selectRows .oracle mixedCaseSelection = .ok (some q) := ⟨_, rfl⟩
  obtain ⟨q', hq'⟩ : ∃ q', Build.selectRows .oracle upperCaseSelection = .ok (some q') := ⟨_, rfl⟩
  have htext : q.sql .oracle = q'.sql .oracle := by
    cases hq
    cases hq'
    rfl
  obtain ⟨w, w', hw, hw', hseen, -⟩ := selection_read_back hs hs' hq hq'
  exact ⟨hs, hs', q, q', w, w', hq, hq', htext, hw, hw', hseen htext⟩

end SqlCatalog
