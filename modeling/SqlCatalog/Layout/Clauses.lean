import SqlCatalog.Layout.Style
import SqlCatalog.Layout.Token
import SqlCatalog.Text.Case

/-!
# Laying out a Statement by its Clauses

One formatter, for whoever has no other. On several lines every clause begins at the
margin of the select that it belongs to, keywords are in capitals and comparison signs
have blanks around them; without a column to wrap after, the items of a list stand below
each other. Nothing in the library hangs on this layout: whoever builds or reads a
statement is handed a formatter.

## Main definitions

* `Layout.spaced`: The significant tokens of a text.
* `Layout.byClauses`: The formatter.
-/

namespace SqlCatalog

namespace Layout

/-- A token with the fact whether a blank stands before it. -/
structure Spaced where
  gap : Bool
  token : Token

/-- The tokens that are not blank, each with the blank before it. There is none at
    the start, after an opening and before a closing parenthesis. -/
def spacedFrom (previous : Option Token) (gap : Bool) : List Token → List Spaced
  | [] => []
  | t :: rest =>
    if t.isBlank then spacedFrom previous true rest
    else
      let joined := previous.isNone || previous.any (Token.isMark '(') || t.isMark ')'
      ⟨gap && !joined, t⟩ :: spacedFrom (some t) false rest

/-- The significant tokens of a text. -/
def spaced (s : List Char) : List Spaced :=
  spacedFrom none false (tokenize s)

/-- The tokens on one line. What follows a semicolon is another statement and
    follows without a blank. -/
def joinFrom (afterStatement : Bool) : List Spaced → List Char
  | [] => []
  | t :: rest =>
    (if t.gap && !afterStatement then [' '] else []) ++ t.token.source
      ++ joinFrom (t.token.isMark ';') rest

/-- The words that are written in capitals. -/
def keywords : List String := [
  "ALL", "AND", "AS", "ASC", "BETWEEN", "BY", "CASE", "CROSS", "DESC", "DISTINCT",
  "ELSE", "END", "EXISTS", "FETCH", "FROM", "FULL", "GROUP", "HAVING", "IN", "INNER", "IS",
  "JOIN", "LEFT", "LIKE", "LIMIT", "NEXT", "NOT", "NULL", "OFFSET", "ON", "ONLY", "OR", "ORDER",
  "OUTER", "RIGHT", "ROWS", "SELECT", "THEN", "UNION", "USING", "WHEN", "WHERE", "WITH"]

/-- The keywords that begin a clause on a line of its own. -/
def clauseWords : List String :=
  ["FROM", "GROUP", "HAVING", "LIMIT", "OFFSET", "ORDER", "UNION", "WHERE"]

/-- The keywords that the items of a list come after. -/
def listWords : List String := ["BY", "DISTINCT", "FROM", "SELECT", "WHERE"]

/-- The keyword that a token is, in capitals. -/
def keyword? : Token → Option String
  | .word s =>
    let capital := String.ofList (Text.upper s)
    if keywords.contains capital then some capital else none
  | _ => none

/-- Whether a token is one of some keywords. -/
def isOneOf (words : List String) (t : Token) : Bool :=
  (keyword? t).any words.contains

/-- Whether a token is a sign of comparison. -/
def isComparison : Token → Bool
  | .mark c => c == '=' || c == '<' || c == '>' || c == '!'
  | _ => false

/-- Where the layout stands: the column it writes at, the column of the items of the
    current list, the margin of every open parenthesis that holds a select, and the
    token before. -/
structure Cursor where
  column : Nat
  items : Nat
  margins : List (Option Nat)
  previous : Option Token

namespace Cursor

/-- The start of a statement. -/
def start : Cursor := ⟨0, 0, [some 0], none⟩

/-- The margin of the select that is being written, where clauses begin lines. -/
def margin? (c : Cursor) : Option Nat :=
  c.margins.head?.join

/-- Whether the layout stands outside all parentheses. -/
def atTop (c : Cursor) : Bool :=
  c.margins.length ≤ 1

/-- What comes between the token before and the next one: a new line at a margin, or
    at most a blank. -/
def separator (c : Cursor) (r : Request) (t : Spaced) (opensSelect : Bool) :
    Option Nat × List Char :=
  match c.previous with
  | none => (none, [])
  | some p =>
    match c.margin?, isOneOf clauseWords t.token with
    | some margin, true => (some margin, [])
    | _, _ =>
      if opensSelect then (some r.indentWidth, [])
      else if r.wrapAfter.isNone && c.atTop && p.isMark ',' then (some c.items, [])
      else if isComparison p || isComparison t.token then
        (none, if isComparison p && isComparison t.token then [] else [' '])
      else (none, if t.gap then [' '] else [])

/-- The cursor after a token that begins at a column. -/
def advance (c : Cursor) (t : Token) (here : Nat) (opensSelect : Bool) : Cursor :=
  let column := here + t.source.length
  let margins :=
    if t.isMark '(' then (if opensSelect then some (here + 1) else none) :: c.margins
    else if t.isMark ')' && !c.atTop then c.margins.tail
    else c.margins
  ⟨column, if isOneOf listWords t && c.atTop then column + 1 else c.items, margins, some t⟩

end Cursor

/-- The rest of a statement with its clauses on lines of their own. -/
def reindentFrom (r : Request) (c : Cursor) : List Spaced → List Char
  | [] => []
  | t :: rest =>
    let opensSelect := t.token.isMark '(' && c.atTop
      && rest.head?.any (fun n => keyword? n.token == some "SELECT")
    let (line, gap) := c.separator r t opensSelect
    let lead := match line with
      | some margin => '\n' :: List.replicate margin ' '
      | none => gap
    let column := match line with
      | some margin => margin
      | none => c.column + gap.length
    let text := match keyword? t.token with
      | some capital => capital.toList
      | none => t.token.source
    lead ++ text ++ reindentFrom r (c.advance t.token column opensSelect) rest

/-- The formatter that goes by clauses. -/
def byClauses : Formatter := fun r sql =>
  String.ofList (if r.reindent then reindentFrom r .start (spaced sql.toList)
    else joinFrom false (spaced sql.toList))

end Layout

end SqlCatalog
