import SqlCatalog.Error
import SqlCatalog.Gate.Nesting
import SqlCatalog.Gate.Normal
import SqlCatalog.Gate.Rule
import SqlCatalog.Gate.Semicolon
import SqlCatalog.Log

/-!
# The Read-Only Gate

Whether a query that a caller wrote may be run. The gate is a row of checks, not
a grammar: each looks at the text itself, at its normal form or at the
literal-free view, and the first one that objects rejects the query. Queries
that the library builds bind every value of a caller and never pass here.

## Main definitions

* `Rejection`: The rule that was broken and what broke it.
* `Candidate`: A text with its normal form and its literal-free view.
* `Gate.checks`: The checks, in the order in which they are applied.
* `Gate.verdict`: The first objection to a text, if there is one.
* `Gate.pass`: The verdict as an outcome, with its log record.
-/

namespace SqlCatalog

namespace Gate

/-- The longest query, in characters. -/
def maxLength : Nat := 50000

/-- The most `SELECT` keywords of a query, those of subqueries included. -/
def maxSelects : Nat := 10

/-- The most branches joined by `UNION`. -/
def maxUnionBranches : Nat := 5

/-- The deepest nesting of parentheses. -/
def maxDepth : Nat := 20

/-- The most hexadecimal literals. -/
def maxHexLiterals : Nat := 3

/-- The most calls for a character code. -/
def maxCharCalls : Nat := 10

/-- A rejected query: the rule that it breaks, and what breaks it. -/
structure Rejection where
  rule : String
  reason : String
deriving DecidableEq

/-- A query text with the two forms of it that the checks look at. -/
structure Candidate where
  text : List Char
  normal : List Char
  view : List Char

namespace Candidate

/-- A text with its forms. They are left empty for a text that is blank or too long,
    which is rejected before anybody looks at them. -/
def ofText (text : List Char) : Candidate :=
  let normal :=
    if !Text.allBlank text && text.length ≤ maxLength then normalize text else []
  ⟨text, normal, literalFree normal⟩

end Candidate

/-- A number in capital hexadecimal digits, four at least. -/
def codePointText (n : Nat) : String :=
  let digits := (Nat.toDigits 16 n).map Char.toUpper
  String.ofList (List.replicate (4 - digits.length) '0' ++ digits)

/-- Control characters other than the two line ends and the tab. -/
def isStrayControl (c : Char) : Bool :=
  let n := c.toNat
  (n < 0x20 || (0x7F ≤ n && n ≤ 0x9F)) && !(c == '\n' || c == '\r' || c == '\t')

/-- A text without the semicolons at its end. -/
def withoutLastSemicolons (s : List Char) : List Char :=
  (s.reverse.dropWhile (· == ';')).reverse

/-- A check objects to a query or passes it on. -/
abbrev Check := Candidate → Option Rejection

/-- The query has something in it. -/
def notEmpty : Check := fun q =>
  if Text.allBlank q.text then some ⟨"empty", "query is empty"⟩ else none

/-- The query is not too long. -/
def notTooLong : Check := fun q =>
  let n := q.text.length
  if n > maxLength then some ⟨"too_long", s!"query exceeds {maxLength} characters ({n})"⟩
  else none

/-- The query begins as one that reads. -/
def startsAsRead : Check := fun q =>
  if startsWithWord ["SELECT", "WITH"] q.normal then none
  else some ⟨"not_select", "only SELECT or WITH queries are allowed"⟩

/-- No forbidden word occurs outside literals. -/
def noForbiddenWord : Check := fun q =>
  forbidden.findSome? fun r =>
    (r.search q.view).map fun w => ⟨r.name, "forbidden keyword: " ++ String.ofList w⟩

/-- Nothing begins or ends a transaction. -/
def noTransaction : Check := fun q =>
  (transactionPhrases.find? fun p => containsText p.toList q.view).map fun p =>
    ⟨"transaction_control", "transaction control: " ++ p⟩

/-- There is one statement only, both in the text as it stands and in the view. -/
def singleStatement : Check := fun q =>
  if (stackedSemicolon? q.text).isSome || (withoutLastSemicolons q.view).contains ';' then
    some ⟨"statement_stacking", "multiple statements are not allowed"⟩
  else none

/-- The result is not stored in a table. -/
def noSelectInto : Check := fun q =>
  if followedBy "SELECT" "INTO" q.view then
    some ⟨"select_into", "SELECT ... INTO is not allowed"⟩
  else none

/-- Not too many branches are joined. -/
def fewUnions : Check := fun q =>
  let n := countWord "UNION" q.view + 1
  if n > maxUnionBranches then
    some ⟨"too_many_unions", s!"{n} UNION branches (max {maxUnionBranches})"⟩
  else none

/-- No control characters hide in the text. -/
def noStrayControl : Check := fun q =>
  (q.text.find? isStrayControl).map fun c =>
    ⟨"control_character", "control character U+" ++ codePointText c.toNat⟩

/-- Not much is spelled in hexadecimal. -/
def fewHexLiterals : Check := fun q =>
  let n := countHexLiterals q.view
  if n > maxHexLiterals then
    some ⟨"hex_obfuscation", s!"{n} hex literals (max {maxHexLiterals})"⟩
  else none

/-- Not much is spelled by character codes. -/
def fewCharCalls : Check := fun q =>
  let n := countCharCalls (segments q.view)
  if n > maxCharCalls then
    some ⟨"char_obfuscation", s!"{n} CHAR/NCHAR calls (max {maxCharCalls})"⟩
  else none

/-- Nothing makes the query wait. -/
def noTiming : Check := fun q =>
  (timing.search q.view).map fun w => ⟨timing.name, "timing function: " ++ String.ofList w⟩

/-- There are not too many subqueries. -/
def fewSelects : Check := fun q =>
  let n := countWord "SELECT" q.view
  if n > maxSelects then
    some ⟨"too_many_selects", s!"{n} SELECT keywords (max {maxSelects})"⟩
  else none

/-- Parentheses match and are not nested too deep. -/
def shallow : Check := fun q =>
  let found := nesting q.view
  if !found.balanced then some ⟨"unbalanced_parentheses", "unbalanced parentheses"⟩
  else if found.depth > maxDepth then
    some ⟨"nesting_too_deep",
      "parentheses nested " ++ toString found.depth ++ s!" deep (max {maxDepth})"⟩
  else none

/-- The checks, in the order in which they are applied. -/
def checks : List Check :=
  [notEmpty, notTooLong, startsAsRead, noForbiddenWord, noTransaction, singleStatement,
    noSelectInto, fewUnions, noStrayControl, fewHexLiterals, fewCharCalls, noTiming,
    fewSelects, shallow]

/-- The first objection to a query, if there is one. -/
def Candidate.verdict (q : Candidate) : Option Rejection :=
  checks.findSome? fun check => check q

/-- The first objection to a text, if there is one. -/
def verdict (text : List Char) : Option Rejection :=
  (Candidate.ofText text).verdict

/-- What the log says about a verdict. Rule and reason stand here and are not told
    to the caller. -/
def verdictLog : Option Rejection → List LogRecord
  | none => []
  | some r => [⟨.gate, .warning, "Query rejected [" ++ r.rule ++ "]: " ++ r.reason⟩]

/-- The verdict as an outcome. -/
def pass (text : List Char) : Outcome Unit :=
  match verdict text with
  | none => .ok ()
  | some r => refuse (.rejected r.rule r.reason)

end Gate

end SqlCatalog
