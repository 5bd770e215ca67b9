import SqlCatalog.Proofs.Query.Lockstep

/-!
# Fixed Texts of the Templates

What the templates of the engines have to keep is a matter of fixed texts, and each text
is judged on its own: it has to be silent, it must not go on with the number of a marker
before it, and when a marker follows, it has to end in a comparison with a column that the
origin of the argument is about.

A template is gone through from left to right by the rules of `Keyed`. The rules take a
text as a list of characters, which is what lets a judgement be computed: a text that is
written out is such a list, while taking it apart byte by byte would be a long way round.

## Main definitions

* `Engine.fixedText`: What a fixed text has to keep.
* `Keyed`: A template all of whose texts keep it, with the indices of its markers.
* `clauseWords`: The words that clauses are put together from.

## Theorems

* `Keyed.silent`: Without markers all of its pieces are silent.
* `Keyed.placed`: The markers of a template that keeps the rules are placed.
* `silent_clauseWords`: The words of clauses are silent.
-/

namespace SqlCatalog

/-- Whether a text ends in a comparison with a column. -/
def endsInComparison (column : String) (text : List Char) : Bool :=
  comparisons.any fun sign => [' ', '.', '('].any fun lead =>
    (lead :: column.toList ++ sign.toList).isSuffixOf text

theorem compares_of_endsInComparison {column : String} {text : List Char}
    (h : endsInComparison column text = true) : Compares column text := by
  obtain ⟨sign, hsign, h⟩ := List.any_eq_true.mp h
  obtain ⟨lead, hlead, h⟩ := List.any_eq_true.mp h
  exact ⟨lead, hlead, sign, hsign, List.isSuffixOf_iff_suffix.mp h⟩

namespace Engine

/-- What a fixed text has to keep: it is silent, it begins with no digit when it stands
    behind a marker, and it ends in a comparison when it stands before one. -/
def fixedText (e : Engine) (op : Operation) (afterMarker : Bool) (origin : Option Origin)
    (text : List Char) : Bool :=
  e.silent none text && (!afterMarker || text.head?.any fun c => !c.isDigit)
    && origin.all fun o => (o.columns e op).any fun column => endsInComparison column text

end Engine

/-- Pieces whose texts keep what they have to, with the indices of their markers. What
    comes right before the pieces is a marker or not. -/
inductive Keyed (e : Engine) (op : Operation) (origins : List Origin) :
    Bool → Nat → List Piece → List Nat → Prop
  | nil {afterMarker : Bool} {next : Nat} : Keyed e op origins afterMarker next [] []
  | text {afterMarker : Bool} {next : Nat} {rest : List Piece} {indices : List Nat}
      {text : List Char} (htext : e.fixedText op afterMarker none text = true)
      (hrest : Keyed e op origins false next rest indices) :
      Keyed e op origins afterMarker next (.sql (String.ofList text) :: rest) indices
  | marker {afterMarker : Bool} {next index : Nat} {i : Int} {rest : List Piece}
      {indices : List Nat} {text : List Char} {origin : Origin}
      (horigin : origins[index - 1]? = some origin)
      (htext : e.fixedText op afterMarker (some origin) text = true)
      (hasks : e.Asks next i index)
      (hrest : Keyed e op origins true (next + 1) rest indices) :
      Keyed e op origins afterMarker next (.sql (String.ofList text) :: .marker i :: rest)
        (index :: indices)

namespace Keyed

variable {e : Engine} {op : Operation} {origins : List Origin} {afterMarker : Bool}
  {next : Nat} {ps : List Piece} {indices : List Nat}

theorem silentPiece_of_fixedText {origin : Option Origin} {text : List Char}
    (h : e.fixedText op afterMarker origin text = true) :
    e.silentPiece (.sql (String.ofList text)) = true := by
  simp only [Engine.fixedText, Bool.and_eq_true] at h
  exact Engine.silentPiece_ofList h.1.1

theorem endsNumber_of_fixedText {origin : Option Origin} {text : List Char}
    (h : e.fixedText op true origin text = true) (rest : List Piece) :
    Engine.endsNumber (.sql (String.ofList text) :: rest) = true := by
  simp only [Engine.fixedText, Bool.and_eq_true, Bool.not_true, Bool.false_or] at h
  rw [Engine.endsNumber, String.toList_ofList]
  exact h.1.2

theorem compared_of_fixedText {origin : Origin} {text : List Char}
    (h : e.fixedText op afterMarker (some origin) text = true) :
    Origin.Compared e op origin text := by
  simp only [Engine.fixedText, Bool.and_eq_true, Option.all_some] at h
  obtain ⟨column, hcolumn, hends⟩ := List.any_eq_true.mp h.2
  exact ⟨column, hcolumn, compares_of_endsInComparison hends⟩

/-- Pieces right behind a marker end its number. -/
theorem endsNumber (h : Keyed e op origins true next ps indices) :
    Engine.endsNumber ps = true := by
  cases h with
  | nil => rfl
  | text htext hrest => exact endsNumber_of_fixedText htext _
  | marker horigin htext hasks hrest => exact endsNumber_of_fixedText htext _

/-- Pieces without markers that keep the rules are silent. -/
theorem silent (h : Keyed e op origins afterMarker next ps []) :
    ∀ p ∈ ps, e.silentPiece p = true := by
  generalize hnone : ([] : List Nat) = none at h
  induction h with
  | nil => exact fun p hp => absurd hp List.not_mem_nil
  | text htext hrest ih =>
      exact List.forall_mem_cons.mpr ⟨silentPiece_of_fixedText htext, ih hnone⟩
  | marker horigin htext hasks hrest ih => exact absurd hnone.symm (List.cons_ne_nil _ _)

/-- The markers of pieces that keep the rules are placed, by induction on the rules. -/
theorem placed (h : Keyed e op origins afterMarker next ps indices) :
    Placed e (PlaceOf origins (Origin.Compared e op)) next ps indices := by
  have hlooks := looksBack_compared e op origins
  induction h with
  | nil => exact Placed.nil
  | @text _ _ rest _ text htext _ ih =>
      have hsilent : ∀ p ∈ [Piece.sql (String.ofList text)], e.silentPiece p = true :=
        fun p hp => List.mem_singleton.mp hp ▸ silentPiece_of_fixedText htext
      exact Placed.silent_append hlooks hsilent ih
  | @marker _ _ index i rest _ text origin horigin htext hasks hrest ih =>
      have hsilent : ∀ p ∈ [Piece.sql (String.ofList text)], e.silentPiece p = true :=
        fun p hp => List.mem_singleton.mp hp ▸ silentPiece_of_fixedText htext
      have hfits : PlaceOf origins (Origin.Compared e op) index
          (e.render [.sql (String.ofList text)]).toList := by
        refine ⟨origin, horigin, ?_⟩
        rw [Engine.toList_render_cons, Engine.renderPiece, String.toList_ofList]
        simpa [Engine.render] using compared_of_fixedText htext
      -- The text and its marker are one part, and what follows ends the marker's number.
      exact Placed.append hlooks (Placed.marker hsilent hasks hfits) ih hrest.endsNumber

end Keyed

/-- The words that clauses are put together from, whatever the engine. -/
@[simp] def clauseWords : List String :=
  ["SELECT ", "SELECT COUNT(*) FROM ", " FROM ", "WHERE ", " AND ", " IN (", "ORDER BY ", " ASC",
    " DESC", "LIMIT ", " OFFSET ", " ROWS FETCH NEXT ", " ROWS ONLY", " IS NULL", " IS NOT NULL",
    "LIKE", "ILIKE", "=", "!=", ">", ">=", "<", "<=", "*", ".", ", ", ")", " "]

theorem silent_clauseWords (e : Engine) :
    ∀ s ∈ clauseWords, e.silent none s.toList = true := by
  cases e <;> decide +kernel

end SqlCatalog
