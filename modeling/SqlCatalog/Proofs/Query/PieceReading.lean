import SqlCatalog.Proofs.Query.Catalogue
import SqlCatalog.Proofs.Query.Quoting

/-!
# Reading a Query Piece by Piece

A query is written piece by piece, but what an engine gets is one text. Whether the text can be
taken apart again where it was put together depends on what stands side by side. Two names in a
row would be read as one with a doubled mark in it where the opening and the closing mark are the
same, and a fixed text that opens a name swallows what follows it.

Pieces are legible when nothing of this happens: names are valid identifiers, which hold no mark,
and do not stand side by side, and fixed texts are not empty and hold neither mark. Then reading
the text is reading its pieces in order, each from where the one before left off: a word that a
text ends with goes on in the next one.

## Main definitions

* `readWords`: The words of a text that opens no name, and the word that it ends in.
* `Engine.isPlainText`: Whether a text is not empty and holds neither mark.
* `Engine.Legible`: Pieces that can be read one by one.
* `Engine.readPieces`: The tokens of pieces, behind the beginning of a word.

## Theorems

* `readWords_append`: Words are read in order.
* `Engine.tokens_render`: Legible pieces are read one by one.
* `Engine.names_readPieces`: The names that are read are valid identifiers.
-/

namespace SqlCatalog

/-! ### Words -/

/-- The words of a text that opens no name, behind the beginning of a word, and the word that it
    ends in. -/
def readWords (before : List Char) : List Char → List Token × List Char
  | [] => ([], before)
  | c :: rest =>
    if c = ' ' then (Token.ofWord before ++ (readWords [] rest).1, (readWords [] rest).2)
    else readWords (before ++ [c]) rest

/-- Words are read in order. -/
theorem readWords_append (before text more : List Char) :
    readWords before (text ++ more) =
      ((readWords before text).1 ++ (readWords (readWords before text).2 more).1,
        (readWords (readWords before text).2 more).2) := by
  induction text generalizing before with
  | nil => rfl
  | cons c rest ih =>
      rw [List.cons_append, readWords, readWords]
      split
      · rw [ih, List.append_assoc]
      · exact ih _

/-- Without a blank the word before goes on. -/
theorem readWords_of_blankless {text : List Char} (h : ' ' ∉ text) (before : List Char) :
    readWords before text = ([], before ++ text) := by
  induction text generalizing before with
  | nil => rw [readWords, List.append_nil]
  | cons c rest ih =>
      have hc : c ≠ ' ' := fun hc => h (hc ▸ List.mem_cons_self)
      rw [readWords, if_neg hc, ih fun hrest => h (List.mem_cons_of_mem c hrest),
        List.append_assoc, List.singleton_append]

/-- Words are words. -/
theorem word_of_mem_ofWord {before : List Char} {t : Token} (h : t ∈ Token.ofWord before) :
    ∃ text, t = .word text := by
  unfold Token.ofWord at h
  split at h
  · exact absurd h List.not_mem_nil
  · exact ⟨_, List.mem_singleton.mp h⟩

theorem word_of_mem_readWords {before text : List Char} {t : Token}
    (h : t ∈ (readWords before text).1) : ∃ word, t = .word word := by
  induction text generalizing before with
  | nil => exact absurd h List.not_mem_nil
  | cons c rest ih =>
      rw [readWords] at h
      split at h
      · exact (List.mem_append.mp h).elim word_of_mem_ofWord ih
      · exact ih h

namespace Engine

variable {e : Engine}

/-- A text that opens no name is read word by word, whatever follows it. -/
theorem readTokens_words {text : List Char} (h : e.rules.openQuote ∉ text)
    (before more : List Char) :
    e.readTokens (.word before) (text ++ more) =
      (readWords before text).1 ++ e.readTokens (.word (readWords before text).2) more := by
  induction text generalizing before with
  | nil => rfl
  | cons c rest ih =>
      have hc : c ≠ e.rules.openQuote := fun hc => h (hc ▸ List.mem_cons_self)
      have ih := ih fun hrest => h (List.mem_cons_of_mem c hrest)
      rw [List.cons_append, readTokens_word_cons, readOutside, if_neg hc, readWords]
      by_cases hblank : c = ' '
      · rw [if_pos hblank, if_pos hblank, ih, List.append_assoc]
      · rw [if_neg hblank, if_neg hblank, List.nil_append, ih]

/-! ### Pieces -/

/-- Whether a text is not empty and holds neither mark. -/
def isPlainText (e : Engine) (text : String) : Bool :=
  !text.toList.isEmpty &&
    text.toList.all fun c => c != e.rules.openQuote && c != e.rules.closeQuote

theorem isPlainText_iff {text : String} :
    e.isPlainText text = true ↔
      text.toList ≠ [] ∧ ∀ c ∈ text.toList, c ≠ e.rules.openQuote ∧ c ≠ e.rules.closeQuote := by
  simp [isPlainText]

theorem isPlainText_append {text more : String} (h : e.isPlainText text = true)
    (hmore : e.isPlainText more = true) : e.isPlainText (text ++ more) = true := by
  obtain ⟨htext, hmarks⟩ := isPlainText_iff.mp h
  rw [isPlainText_iff, String.toList_append]
  exact ⟨fun hnil => htext (List.append_eq_nil_iff.mp hnil).1,
    List.forall_mem_append.mpr ⟨hmarks, (isPlainText_iff.mp hmore).2⟩⟩

/-- Pieces that can be read one by one. -/
def Legible (e : Engine) : List Piece → Prop
  | [] => True
  | .name n :: rest =>
    Identifier.isName n.toList = true ∧ (∀ m, rest.head? ≠ some (.name m)) ∧ e.Legible rest
  | .sql text :: rest => e.isPlainText text = true ∧ e.Legible rest
  | _ :: _ => False

/-- The tokens of pieces behind the beginning of a word. -/
def readPieces (e : Engine) (before : List Char) : List Piece → List Token
  | [] => Token.ofWord before
  | .name n :: rest => Token.ofWord before ++ .name (e.fold n) :: e.readPieces [] rest
  | p :: rest =>
    (readWords before (e.renderPiece p).toList).1 ++
      e.readPieces (readWords before (e.renderPiece p).toList).2 rest

theorem readPieces_name (e : Engine) (before : List Char) (n : String) (rest : List Piece) :
    e.readPieces before (.name n :: rest) =
      Token.ofWord before ++ .name (e.fold n) :: e.readPieces [] rest := rfl

/-- Where the words of a fixed text are known, so are its tokens. -/
theorem readPieces_sql (e : Engine) {before after : List Char} {text : String} {ts : List Token}
    (h : readWords before text.toList = (ts, after)) (rest : List Piece) :
    e.readPieces before (.sql text :: rest) = ts ++ e.readPieces after rest := by
  change (readWords before text.toList).1 ++ e.readPieces (readWords before text.toList).2 rest = _
  rw [h]

/-- Pieces behind which no name stands are legible with what follows. -/
theorem Legible.append {ps qs : List Piece} (hps : e.Legible ps) (hqs : e.Legible qs)
    (h : ∀ m, qs.head? ≠ some (.name m)) : e.Legible (ps ++ qs) := by
  induction ps with
  | nil => exact hqs
  | cons p rest ih =>
      cases p with
      | name n =>
          obtain ⟨hname, hnext, hrest⟩ := hps
          refine ⟨hname, fun m => ?_, ih hrest⟩
          cases rest with
          | nil => exact h m
          | cons next more => exact hnext m
      | sql text =>
          exact ⟨hps.1, ih hps.2⟩
      | _ => exact hps.elim

/-- What stands behind a name does not double its closing mark. -/
theorem Legible.head?_render {ps : List Piece} (h : e.Legible ps)
    (hhead : ∀ m, ps.head? ≠ some (.name m)) :
    (e.render ps).toList.head? ≠ some e.rules.closeQuote := by
  cases ps with
  | nil => exact Option.some_ne_none _ ∘ Eq.symm
  | cons p rest =>
      cases p with
      | name n => exact absurd rfl (hhead n)
      | sql text =>
          obtain ⟨htext, hmarks⟩ := isPlainText_iff.mp h.1
          obtain ⟨c, more, hcons⟩ := List.exists_cons_of_ne_nil htext
          rw [render_cons, String.toList_append, renderPiece, hcons, List.cons_append,
            List.head?_cons]
          exact fun hmark => (hmarks c (hcons ▸ List.mem_cons_self)).2 (Option.some.inj hmark)
      | _ => exact h.elim

/-- A valid identifier does not hold the mark that closes it. -/
theorem closeQuote_not_mem_of_isName (e : Engine) {name : String}
    (h : Identifier.isName name.toList = true) :
    e.rules.closeQuote ∉ (e.fold name).toList := by
  simpa [silentPiece] using silentPiece_name e h

/-- Legible pieces are read one by one, by induction on the pieces. -/
theorem readTokens_render {ps : List Piece} (h : e.Legible ps) (before : List Char) :
    e.readTokens (.word before) (e.render ps).toList = e.readPieces before ps := by
  induction ps generalizing before with
  | nil => rfl
  | cons p rest ih =>
      rw [render_cons, String.toList_append]
      cases p with
      | name n =>
          obtain ⟨hname, hnext, hrest⟩ := h
          have hmore := hrest.head?_render hnext
          rw [renderPiece, quote, String.toList_ofList, List.cons_append, List.cons_append,
            readTokens_word_cons, readOutside, if_pos rfl, List.append_assoc, List.singleton_append,
            readTokens_closing (e.closeQuote_not_mem_of_isName hname) hmore, ih hrest,
            List.nil_append, String.ofList_toList, readPieces]
      | sql text =>
          have hopen : e.rules.openQuote ∉ text.toList :=
            fun hmark => ((isPlainText_iff.mp h.1).2 _ hmark).1 rfl
          rw [renderPiece, readTokens_words hopen, ih h.2, readPieces, renderPiece]
          exact fun n hn => Piece.noConfusion hn
      | _ => exact h.elim

/-- So is the whole text of a query. -/
theorem tokens_render {ps : List Piece} (h : e.Legible ps) :
    e.tokens (e.render ps) = e.readPieces [] ps :=
  readTokens_render h []

/-- What is read is words and valid identifiers, each of them closed. -/
theorem names_readPieces {before : List Char} {ps : List Piece} (h : e.Legible ps) {t : Token}
    (ht : t ∈ e.readPieces before ps) :
    (∃ text, t = .word text) ∨
      ∃ n : String, Identifier.isName n.toList = true ∧ t = .name (e.fold n) := by
  induction ps generalizing before with
  | nil => exact .inl (word_of_mem_ofWord ht)
  | cons p rest ih =>
      cases p with
      | name n =>
          obtain ⟨hname, -, hrest⟩ := h
          rcases List.mem_append.mp ht with hword | ht
          · exact .inl (word_of_mem_ofWord hword)
          · rcases List.mem_cons.mp ht with ht | ht
            · exact .inr ⟨n, hname, ht⟩
            · exact ih hrest ht
      | sql text =>
          rcases List.mem_append.mp ht with hword | ht
          · exact .inl (word_of_mem_readWords hword)
          · exact ih h.2 ht
      | _ => exact h.elim

end Engine

end SqlCatalog
