import SqlCatalog.Engine.Writing

/-!
# Reading Quoted Names

A clause reaches an engine as one text, and the engine takes it apart again into words and
quoted names. A quoted name goes from the opening mark to the first closing mark that is not
doubled; a doubled one stands for the mark itself. Nothing else ends a name, so whatever
stands between the marks is its content, blanks and keywords included.

Names are written here without doubling anything. So the tokens of a text are those that it
was written from as long as no name holds the closing mark, and only then: with such a name
the reader stops early, or takes the mark that was to close the name for a doubled one and
reads on.

## Main definitions

* `Token`, `Engine.writeTokens`: Words and quoted names, and their text.
* `Engine.tokens`: The tokens of a text.
* `Token.IsSound`: A word is one word.

## Theorems

* `Engine.doubled_of_readTokens`: What a reader has passed when it has read a name.
* `Engine.readTokens_writeTokens_iff`: A text has the tokens that it was written from if and
  only if no name holds the closing mark.
-/

namespace SqlCatalog

/-- What a clause is made of: words and quoted names. A name that is not closed before the
    text ends is none. -/
inductive Token where
  | word (text : String)
  | name (content : String)
  | unclosed (content : String)
deriving DecidableEq

/-- Where a reader of tokens is: in a word or before the next one, in a quoted name, or
    behind a closing mark, which closes the name unless it is doubled. -/
inductive Reading where
  | word (text : List Char)
  | name (content : List Char)
  | closing (content : List Char)

/-- The word that ends with a text read so far, if there is one. -/
def Token.ofWord (text : List Char) : List Token :=
  if text.isEmpty then [] else [.word (String.ofList text)]

namespace Engine

/-- Reading one more character outside of quotes. -/
def readOutside (e : Engine) (text : List Char) (c : Char) : List Token × Reading :=
  if c = e.rules.openQuote then (Token.ofWord text, .name [])
  else if c = ' ' then (Token.ofWord text, .word [])
  else ([], .word (text ++ [c]))

/-- The tokens of the rest of a text. -/
def readTokens (e : Engine) : Reading → List Char → List Token
  | .word text, [] => Token.ofWord text
  | .word text, c :: rest =>
    (e.readOutside text c).1 ++ e.readTokens (e.readOutside text c).2 rest
  | .name content, [] => [.unclosed (String.ofList content)]
  | .name content, c :: rest =>
    if c = e.rules.closeQuote then e.readTokens (.closing content) rest
    else e.readTokens (.name (content ++ [c])) rest
  | .closing content, [] => [.name (String.ofList content)]
  | .closing content, c :: rest =>
    if c = e.rules.closeQuote then e.readTokens (.name (content ++ [c])) rest
    else .name (String.ofList content) ::
      ((e.readOutside [] c).1 ++ e.readTokens (e.readOutside [] c).2 rest)

/-- The tokens of a text. -/
def tokens (e : Engine) (text : String) : List Token :=
  e.readTokens (.word []) text.toList

/-- The text of a token. Inside of the quotes nothing is doubled. -/
def writeToken (e : Engine) : Token → List Char
  | .word text => text.toList
  | .name content => e.rules.openQuote :: content.toList ++ [e.rules.closeQuote]
  | .unclosed content => e.rules.openQuote :: content.toList

/-- The text of tokens, each behind a blank. -/
def writeTokens (e : Engine) (ts : List Token) : List Char :=
  ts.flatMap fun t => ' ' :: e.writeToken t

end Engine

/-- A token is read as it is written unless a name holds the closing mark: a word is not
    empty and has neither blanks nor opening marks, and a name is closed. -/
def Token.IsSound (e : Engine) : Token → Prop
  | .word text => text.toList ≠ [] ∧ ∀ c ∈ text.toList, c ≠ e.rules.openQuote ∧ c ≠ ' '
  | .name _ => True
  | .unclosed _ => False

namespace Engine

variable {e : Engine}

theorem writeTokens_cons (e : Engine) (t : Token) (ts : List Token) :
    e.writeTokens (t :: ts) = ' ' :: e.writeToken t ++ e.writeTokens ts :=
  List.flatMap_cons

theorem writeTokens_append (e : Engine) (ts us : List Token) :
    e.writeTokens (ts ++ us) = e.writeTokens ts ++ e.writeTokens us :=
  List.flatMap_append

theorem openQuote_ne_blank (e : Engine) : ' ' ≠ e.rules.openQuote := by
  cases e <;> decide

theorem closeQuote_ne_blank (e : Engine) : ' ' ≠ e.rules.closeQuote := by
  cases e <;> decide

/-- No text that is written begins with the closing mark. -/
theorem head?_writeTokens (e : Engine) (ts : List Token) :
    (e.writeTokens ts).head? ≠ some e.rules.closeQuote := by
  cases ts with
  | nil => exact Option.some_ne_none _ ∘ Eq.symm
  | cons t rest => exact fun h => e.closeQuote_ne_blank (Option.some.inj h)

/-! ### Reading what was written -/

theorem readTokens_word_cons (text : List Char) (c : Char) (rest : List Char) :
    e.readTokens (.word text) (c :: rest) =
      (e.readOutside text c).1 ++ e.readTokens (e.readOutside text c).2 rest := rfl

theorem readTokens_name_cons (content : List Char) (c : Char) (rest : List Char) :
    e.readTokens (.name content) (c :: rest) =
      if c = e.rules.closeQuote then e.readTokens (.closing content) rest
      else e.readTokens (.name (content ++ [c])) rest := rfl

theorem readTokens_closing_nil (content : List Char) :
    e.readTokens (.closing content) [] = [.name (String.ofList content)] := rfl

theorem readTokens_closing_cons (content : List Char) (c : Char) (rest : List Char) :
    e.readTokens (.closing content) (c :: rest) =
      if c = e.rules.closeQuote then e.readTokens (.name (content ++ [c])) rest
      else .name (String.ofList content) ::
        ((e.readOutside [] c).1 ++ e.readTokens (e.readOutside [] c).2 rest) := rfl

theorem readOutside_blank (text : List Char) :
    e.readOutside text ' ' = (Token.ofWord text, .word []) := by
  rw [readOutside, if_neg e.openQuote_ne_blank, if_pos rfl]

theorem readTokens_blank (t : List Char) :
    e.readTokens (.word []) (' ' :: t) = e.readTokens (.word []) t := by
  rw [readTokens_word_cons, readOutside_blank]
  rfl

theorem readTokens_writeTokens_cons (t : Token) (ts : List Token) :
    e.readTokens (.word []) (e.writeTokens (t :: ts)) =
      e.readTokens (.word []) (e.writeToken t ++ e.writeTokens ts) := by
  rw [writeTokens_cons, List.cons_append, readTokens_blank]

theorem readTokens_opening (name : String) (t : List Char) :
    e.readTokens (.word []) (e.writeToken (.name name) ++ t) =
      e.readTokens (.name []) (name.toList ++ e.rules.closeQuote :: t) := by
  rw [writeToken, List.cons_append, List.cons_append, readTokens_word_cons, readOutside, if_pos rfl,
    List.append_assoc]
  rfl

/-- A word ends where the next token begins. -/
theorem readTokens_writeTokens (text : List Char) (ts : List Token) :
    e.readTokens (.word text) (e.writeTokens ts) =
      Token.ofWord text ++ e.readTokens (.word []) (e.writeTokens ts) := by
  cases ts with
  | nil => exact (List.append_nil _).symm
  | cons t rest =>
      rw [writeTokens_cons, List.cons_append, readTokens_blank, readTokens_word_cons,
        readOutside_blank]

/-- A word is read up to its end, whatever part of it was read before. -/
theorem readTokens_word {word : List Char}
    (h : ∀ c ∈ word, c ≠ e.rules.openQuote ∧ c ≠ ' ') (text : List Char) (ts : List Token) :
    e.readTokens (.word text) (word ++ e.writeTokens ts) =
      Token.ofWord (text ++ word) ++ e.readTokens (.word []) (e.writeTokens ts) := by
  induction word generalizing text with
  | nil => rw [List.nil_append, List.append_nil, readTokens_writeTokens]
  | cons c rest ih =>
      obtain ⟨hopen, hblank⟩ := h c List.mem_cons_self
      rw [List.cons_append, readTokens_word_cons, readOutside, if_neg hopen, if_neg hblank,
        List.nil_append, ih fun d hd => h d (List.mem_cons_of_mem c hd), List.append_assoc,
        List.singleton_append]

/-- A name without the closing mark ends where it is closed, unless the mark is doubled. -/
theorem readTokens_closing {name more : List Char} (h : e.rules.closeQuote ∉ name)
    (hmore : more.head? ≠ some e.rules.closeQuote) (content : List Char) :
    e.readTokens (.name content) (name ++ e.rules.closeQuote :: more) =
      .name (String.ofList (content ++ name)) :: e.readTokens (.word []) more := by
  induction name generalizing content with
  | nil =>
      rw [List.nil_append, List.append_nil, readTokens_name_cons, if_pos rfl]
      cases more with
      | nil => rfl
      | cons c rest =>
          have hc : c ≠ e.rules.closeQuote := fun hc => hmore (congrArg some hc)
          rw [readTokens_closing_cons, readTokens_word_cons, if_neg hc]
  | cons c rest ih =>
      have hc : c ≠ e.rules.closeQuote := fun hc => h (hc ▸ List.mem_cons_self)
      rw [List.cons_append, readTokens_name_cons, if_neg hc,
        ih fun hrest => h (List.mem_cons_of_mem c hrest),
        List.append_assoc, List.singleton_append]

/-! ### Names that hold the closing mark -/

/-- A text with every closing mark doubled. -/
def doubled (e : Engine) (text : List Char) : List Char :=
  text.flatMap fun c => if c = e.rules.closeQuote then [c, c] else [c]

theorem doubled_close (e : Engine) (text : List Char) :
    e.doubled (e.rules.closeQuote :: text) =
      e.rules.closeQuote :: e.rules.closeQuote :: e.doubled text := by
  rw [doubled, List.flatMap_cons, if_pos rfl]
  rfl

theorem doubled_other {c : Char} (hc : c ≠ e.rules.closeQuote) (text : List Char) :
    e.doubled (c :: text) = c :: e.doubled text := by
  rw [doubled, List.flatMap_cons, if_neg hc]
  rfl

/-- What a reader has passed when it has read a name: the name with its closing marks
    doubled, and one that is not. Behind a closing mark that is the other half of a doubled
    one, or nothing at all. -/
theorem doubled_of_readTokens {text : List Char} {name : String} {ts : List Token} :
    (∀ content, e.readTokens (.name content) text = .name name :: ts →
      ∃ more after, name.toList = content ++ more ∧
        text = e.doubled more ++ e.rules.closeQuote :: after ∧
        after.head? ≠ some e.rules.closeQuote) ∧
    (∀ content, e.readTokens (.closing content) text = .name name :: ts →
      (name.toList = content ∧ text.head? ≠ some e.rules.closeQuote) ∨
      ∃ more after, name.toList = content ++ e.rules.closeQuote :: more ∧
        text = e.rules.closeQuote :: e.doubled more ++ e.rules.closeQuote :: after ∧
        after.head? ≠ some e.rules.closeQuote) := by
  -- The reader goes from the name to a closing mark and back, so the two states are one
  -- induction.
  induction text with
  | nil =>
      refine ⟨fun content h => absurd (List.cons.inj h).1 nofun, fun content h => .inl ⟨?_, ?_⟩⟩
      · simp only [readTokens_closing_nil, List.cons.injEq, Token.name.injEq] at h
        rw [← h.1, String.toList_ofList]
      · simp
  | cons c rest ih =>
      refine ⟨fun content h => ?_, fun content h => ?_⟩
      · rw [readTokens_name_cons] at h
        split at h
        · rename_i hc
          rw [hc]
          -- The mark closed the name, or it was the first half of a doubled one.
          obtain ⟨hname, hhead⟩ | ⟨more, after, hname, hrest, hhead⟩ := ih.2 content h
          · exact ⟨[], rest, by rw [hname, List.append_nil], rfl, hhead⟩
          · exact ⟨e.rules.closeQuote :: more, after, hname,
              by rw [hrest, doubled_close]; rfl, hhead⟩
        · rename_i hc
          obtain ⟨more, after, hname, hrest, hhead⟩ := ih.1 (content ++ [c]) h
          exact ⟨c :: more, after, by rw [hname, List.append_assoc, List.singleton_append],
            by rw [hrest, doubled_other hc]; rfl, hhead⟩
      · rw [readTokens_closing_cons] at h
        split at h
        · rename_i hc
          obtain ⟨more, after, hname, hrest, hhead⟩ := ih.1 (content ++ [c]) h
          rw [hc] at hname ⊢
          exact .inr ⟨more, after, by rw [hname, List.append_assoc, List.singleton_append],
            by rw [hrest]; rfl, hhead⟩
        · rename_i hc
          simp only [List.cons.injEq, Token.name.injEq] at h
          exact .inl ⟨by rw [← h.1, String.toList_ofList], by simpa using hc⟩

/-- Once a mark is missing in what was written it is never made up for: behind more closing
    marks than were written only more closing marks can be read. -/
theorem replicate_doubled_ne {t : List Char} (ht : t.head? ≠ some e.rules.closeQuote)
    (name after : List Char) (n : Nat) :
    List.replicate (n + 1) e.rules.closeQuote ++ e.doubled name ++ e.rules.closeQuote :: after ≠
      name ++ e.rules.closeQuote :: t := by
  -- Every closing mark of the name makes the surplus larger by one, and nothing makes it
  -- smaller.
  induction name generalizing n with
  | nil =>
      intro h
      rw [List.replicate_succ] at h
      have htail : List.replicate n e.rules.closeQuote ++ e.rules.closeQuote :: after = t := by
        simpa [doubled] using h
      rw [← htail] at ht
      cases n <;> exact ht rfl
  | cons c rest ih =>
      intro h
      have hc : c = e.rules.closeQuote := by
        simpa [List.replicate_succ] using (congrArg List.head? h).symm
      refine ih (n + 1) ?_
      rw [hc, doubled_close, List.replicate_succ] at h
      have htail := (List.cons.inj h).2
      rw [show n + 1 + 1 = n + 2 from rfl, ← List.replicate_append_replicate]
      simpa using htail

/-- A name that is read where it was written does not hold the closing mark. -/
theorem closeQuote_not_mem_of_doubled {name after t : List Char}
    (ht : t.head? ≠ some e.rules.closeQuote)
    (h : name ++ e.rules.closeQuote :: t = e.doubled name ++ e.rules.closeQuote :: after) :
    e.rules.closeQuote ∉ name := by
  induction name with
  | nil => exact List.not_mem_nil
  | cons c rest ih =>
      by_cases hc : c = e.rules.closeQuote
      · -- From the first closing mark on one mark is missing in what was written.
        rw [hc, doubled_close] at h
        exact absurd (List.cons.inj h).2.symm (replicate_doubled_ne ht rest after 0)
      · rw [doubled_other hc] at h
        have hrest := ih (List.cons.inj h).2
        exact fun hmem => (List.mem_cons.mp hmem).elim (fun heq => hc heq.symm) hrest

/-- A reader finds a name where it was written only if the name does not hold the closing
    mark. -/
theorem closeQuote_not_mem_of_readTokens {name : String} {ts us : List Token}
    (h : e.readTokens (.name []) (name.toList ++ e.rules.closeQuote :: e.writeTokens ts) =
      .name name :: us) : e.rules.closeQuote ∉ name.toList := by
  obtain ⟨more, after, hname, htext, -⟩ := doubled_of_readTokens.1 [] h
  rw [List.nil_append] at hname
  rw [← hname] at htext
  exact closeQuote_not_mem_of_doubled (e.head?_writeTokens ts) htext

/-- A text has the tokens that it was written from if and only if no name among them holds
    the closing mark, by induction on the tokens. -/
theorem readTokens_writeTokens_iff {ts : List Token} (h : ∀ t ∈ ts, t.IsSound e) :
    e.readTokens (.word []) (e.writeTokens ts) = ts ↔
      ∀ name, .name name ∈ ts → e.rules.closeQuote ∉ name.toList := by
  induction ts with
  | nil => exact ⟨fun _ _ hname => absurd hname List.not_mem_nil, fun _ => rfl⟩
  | cons t rest ih =>
      have ih := ih fun u hu => h u (List.mem_cons_of_mem t hu)
      have ht := h t List.mem_cons_self
      rw [readTokens_writeTokens_cons]
      cases t with
      | unclosed content => exact absurd ht id
      | word text =>
          have hword : Token.ofWord ([] ++ text.toList) = [.word text] := by
            rw [List.nil_append, Token.ofWord, if_neg (by simpa using ht.1), String.ofList_toList]
          rw [writeToken, readTokens_word ht.2, hword, List.singleton_append,
            List.cons.injEq, eq_self, true_and, ih]
          exact ⟨fun hrest name hname => hrest name (by simpa using hname),
            fun hall name hname => hall name (List.mem_cons_of_mem _ hname)⟩
      | name content =>
          rw [readTokens_opening]
          constructor
          · intro hread
            -- Only when the first name is known to be free of the mark is it known where
            -- the reader goes on, and then the induction speaks of the rest.
            have hfree := closeQuote_not_mem_of_readTokens hread
            rw [readTokens_closing hfree (e.head?_writeTokens rest), List.nil_append,
              String.ofList_toList, List.cons.injEq, eq_self, true_and, ih] at hread
            intro name hname
            rcases List.mem_cons.mp hname with heq | hrest
            · rw [Token.name.inj heq]
              exact hfree
            · exact hread name hrest
          · intro hall
            rw [readTokens_closing (hall content List.mem_cons_self) (e.head?_writeTokens rest),
              List.nil_append, String.ofList_toList,
              ih.mpr fun name hname => hall name (List.mem_cons_of_mem _ hname)]

end Engine

end SqlCatalog
