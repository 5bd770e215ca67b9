/-!
# Blank Characters

The white space of the whole code space: the ASCII blanks, the four information
separators, the next-line control and the spaces of other scripts. Trimming a
text and collapsing the space inside it use the same set.

## Main definitions

* `isBlank`: Whether a character is white space.
* `trim`, `trimEnd`: A text without the blanks at both ends, or at its end.
* `words`: The runs of characters between blanks.

## Theorems

* `trimEnd_append`: What follows the last mark of a text is trimmed on its own.
-/

namespace SqlCatalog

namespace Text

/-- White space of any script. -/
def isBlank (c : Char) : Bool :=
  let n := c.toNat
  (0x09 ≤ n && n ≤ 0x0D) || (0x1C ≤ n && n ≤ 0x20) || n == 0x85 || n == 0xA0 || n == 0x1680 ||
    (0x2000 ≤ n && n ≤ 0x200A) || n == 0x2028 || n == 0x2029 || n == 0x202F || n == 0x205F ||
    n == 0x3000

/-- The text without the blanks at its end. -/
def trimEnd (s : List Char) : List Char :=
  (s.reverse.dropWhile isBlank).reverse

/-- The text without the blanks at its start and at its end. -/
def trim (s : List Char) : List Char :=
  trimEnd (s.dropWhile isBlank)

/-- The text without the blanks at its start and at its end, as a string. -/
def trimmed (s : String) : String :=
  String.ofList (trim s.toList)

/-- Whether a text holds nothing but blanks. -/
def allBlank (s : List Char) : Bool :=
  s.all isBlank

/-- One step of `words`: a blank closes the current word, another character joins it. -/
def pushWordChar (c : Char) : List Char × List (List Char) → List Char × List (List Char)
  | (current, done) =>
    if isBlank c then ([], if current.isEmpty then done else current :: done)
    else (c :: current, done)

/-- The maximal runs of characters that are not blank, in order. -/
def words (s : List Char) : List (List Char) :=
  let (current, done) := s.foldr pushWordChar ([], [])
  if current.isEmpty then done else current :: done

/-- Trimming the end looks no further back than the last mark. -/
theorem trimEnd_append {s t : List Char} (h : trimEnd t ≠ []) :
    trimEnd (s ++ t) = s ++ trimEnd t := by
  have h' : t.reverse.dropWhile isBlank ≠ [] := by
    simpa [trimEnd] using h
  simp [trimEnd, List.dropWhile_append, h']

end Text

end SqlCatalog
