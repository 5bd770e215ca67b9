import SqlCatalog.Text.WordChar

/-!
# Words and Marks

A text cut into its maximal words and the marks between them. A keyword occurs
in a text as a whole word exactly when it is one of these words, so every rule
about keywords is a question about the list of segments.

## Main definitions

* `Segment`: A maximal word, or one character that belongs to none.
* `segments`: The segments of a text.

## Theorems

* `flatMap_source_segments`: The segments are the text.
-/

namespace SqlCatalog

namespace Gate

/-- A maximal word of a text, or one character that belongs to no word. -/
inductive Segment where
  | word (s : List Char)
  | mark (c : Char)
deriving DecidableEq

namespace Segment

/-- The characters of the segment. -/
def source : Segment → List Char
  | .word s => s
  | .mark c => [c]

/-- The word of a segment that is one. -/
def word? : Segment → Option (List Char)
  | .word s => some s
  | .mark _ => none

end Segment

/-- A character put in front of segments: it joins a word that they begin with. -/
def pushChar (c : Char) (rest : List Segment) : List Segment :=
  if Text.isWordChar c then
    match rest with
    | .word w :: more => .word (c :: w) :: more
    | more => .word [c] :: more
  else .mark c :: rest

/-- The words and marks of a text. -/
def segments (s : List Char) : List Segment :=
  s.foldr pushChar []

/-- The words of a text, in order. -/
def wordsOf (s : List Char) : List (List Char) :=
  (segments s).filterMap Segment.word?

/-- The segments are the text. -/
theorem flatMap_source_segments (s : List Char) :
    (segments s).flatMap Segment.source = s := by
  induction s with
  | nil => rfl
  | cons c rest ih =>
    change (pushChar c (segments rest)).flatMap Segment.source = c :: rest
    unfold pushChar
    split
    · split
      · rename_i w more heq
        rw [heq] at ih
        simpa [Segment.source] using ih
      · simp [Segment.source, ih]
    · simp [Segment.source, ih]

end Gate

end SqlCatalog
