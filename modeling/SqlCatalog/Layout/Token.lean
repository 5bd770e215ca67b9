import SqlCatalog.Text.Blank
import SqlCatalog.Text.WordChar

/-!
# Tokens of a Statement

A statement cut into words, quoted runs, blanks and single marks, which is all
that laying it out has to know about it.

## Main definitions

* `Token`: A token of a statement.
* `tokenize`: The tokens of a text.

## Theorems

* `flatMap_source_tokenize`: The tokens are the text.
-/

namespace SqlCatalog

namespace Layout

/-- A token of a statement. A quoted run keeps its quotes. -/
inductive Token where
  | word (s : List Char)
  | run (s : List Char)
  | blank (s : List Char)
  | mark (c : Char)
deriving DecidableEq

namespace Token

/-- The characters of the token. -/
def source : Token → List Char
  | .word s | .run s | .blank s => s
  | .mark c => [c]

/-- Whether the token is this mark. -/
def isMark (c : Char) : Token → Bool
  | .mark d => c == d
  | _ => false

/-- Whether the token is blank. -/
def isBlank : Token → Bool
  | .blank _ => true
  | _ => false

end Token

/-- The mark that closes a quoted run, if the character opens one. -/
def closing? (c : Char) : Option Char :=
  if c = '\'' || c = '"' || c = '\x60' then some c
  else if c = '[' then some ']'
  else none

/-- The characters of words: those of names, and the marks of parameters. -/
def isTokenChar (c : Char) : Bool :=
  Text.isWordChar c || c == '$' || c == '@' || c == '#'

/-- The first token of a text that begins with the character, and what follows it. -/
def nextToken (c : Char) (rest : List Char) : Token × List Char :=
  match closing? c with
  | some close =>
    if rest.contains close then
      (.run (c :: rest.takeWhile (· != close) ++ [close]), (rest.dropWhile (· != close)).tail)
    else (.mark c, rest)
  | none =>
    if isTokenChar c then (.word (c :: rest.takeWhile isTokenChar), rest.dropWhile isTokenChar)
    else if Text.isBlank c then
      (.blank (c :: rest.takeWhile Text.isBlank), rest.dropWhile Text.isBlank)
    else (.mark c, rest)

/-- A character of the text, then the text without characters before it. -/
theorem takeWhile_append_tail {close : Char} {s : List Char} (h : s.contains close = true) :
    s.takeWhile (· != close) ++ close :: (s.dropWhile (· != close)).tail = s := by
  induction s with
  | nil => simp at h
  | cons c rest ih =>
    by_cases hc : c = close
    · simp [hc]
    · have hrest : rest.contains close = true := by simpa [Ne.symm hc] using h
      simpa [hc] using ih hrest

/-- The first token and what follows it are the text. -/
theorem source_nextToken (c : Char) (rest : List Char) :
    (nextToken c rest).1.source ++ (nextToken c rest).2 = c :: rest := by
  unfold nextToken
  split
  · rename_i close _
    split
    · rename_i h
      have := takeWhile_append_tail h
      simpa [Token.source] using this
    · rfl
  · split
    · simp [Token.source, List.takeWhile_append_dropWhile]
    · split
      · simp [Token.source, List.takeWhile_append_dropWhile]
      · rfl

/-- A token takes at least one character. -/
theorem length_nextToken (c : Char) (rest : List Char) :
    (nextToken c rest).2.length ≤ rest.length := by
  have h := congrArg List.length (source_nextToken c rest)
  have pos : 1 ≤ (nextToken c rest).1.source.length := by
    unfold nextToken
    split
    · split <;> simp [Token.source]
    · split
      · simp [Token.source]
      · split <;> simp [Token.source]
  simp only [List.length_append, List.length_cons] at h
  omega

/-- The tokens of a text. -/
def tokenize : List Char → List Token
  | [] => []
  | c :: rest =>
    have : (nextToken c rest).2.length ≤ rest.length := length_nextToken c rest
    (nextToken c rest).1 :: tokenize (nextToken c rest).2
termination_by s => s.length
decreasing_by simp; omega

/-- The tokens are the text. -/
theorem flatMap_source_tokenize (s : List Char) : (tokenize s).flatMap Token.source = s := by
  fun_induction tokenize s with
  | case1 => rfl
  | case2 c rest _ ih => simp [ih, source_nextToken]

end Layout

end SqlCatalog
