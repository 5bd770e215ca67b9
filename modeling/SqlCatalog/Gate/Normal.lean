import SqlCatalog.Gate.Lexeme
import SqlCatalog.Text.Blank
import SqlCatalog.Text.Case

/-!
# Normal Form and Literal-Free View

The two forms of a query text that the rules of the gate look at. The normal
form reads comments as blanks, writes every run of blanks as one blank, drops
the blanks around parentheses, commas and semicolons, and is in upper case. The
literal-free view of it empties quoted runs, one kind after the other, so that a
word inside a literal is not taken for a keyword.

## Main definitions

* `normalize`: The normal form of a text.
* `emptyRuns`: A text with the runs of one kind emptied.
* `literalFree`: A text with all runs emptied.
-/

namespace SqlCatalog

namespace Gate

/-- The text with every comment read as a blank. -/
def withoutComments (s : List Char) : List Char :=
  (lex s).flatMap Lexeme.uncommented

/-- Every run of blanks written as one blank. The flag tells whether the character
    before was blank. -/
def collapseFrom (afterBlank : Bool) : List Char → List Char
  | [] => []
  | c :: rest =>
    if Text.isBlank c then
      if afterBlank then collapseFrom true rest else ' ' :: collapseFrom true rest
    else c :: collapseFrom false rest

/-- Every run of blanks written as one blank. -/
def collapse (s : List Char) : List Char :=
  collapseFrom false s

/-- The marks that stand without blanks around them. -/
def isTight (c : Char) : Bool :=
  c == '(' || c == ')' || c == ',' || c == ';'

/-- A collapsed text without the blanks next to a tight mark. The flag tells whether
    the character before was one. -/
def tightenFrom (afterTight : Bool) : List Char → List Char
  | [] => []
  | c :: rest =>
    if c = ' ' && (afterTight || rest.head?.any isTight) then tightenFrom afterTight rest
    else c :: tightenFrom (isTight c) rest

/-- A collapsed text without the blanks next to a tight mark. -/
def tighten (s : List Char) : List Char :=
  tightenFrom false s

/-- The normal form of a query text. -/
def normalize (s : List Char) : List Char :=
  Text.upper (tighten (Text.trim (collapse (withoutComments s))))

/-- The text with every run of one kind emptied. A mark that never closes stays, and
    so does all that follows it, since no later mark closes either. -/
def emptyRuns (kind : QuoteKind) : List Char → List Char
  | [] => []
  | c :: rest =>
    if c = kind.opening then
      match h : breakAt kind.closing rest with
      | some (_, after) =>
        have : after.length < rest.length := length_lt_of_breakAt h
        kind.opening :: kind.closing :: emptyRuns kind after
      | none => c :: rest
    else c :: emptyRuns kind rest
termination_by s => s.length
decreasing_by all_goals simp_all <;> omega

/-- The text with the runs of all kinds emptied, single quotes first and brackets
    last. -/
def literalFree (s : List Char) : List Char :=
  emptyRuns .bracket (emptyRuns .double (emptyRuns .single s))

end Gate

end SqlCatalog
