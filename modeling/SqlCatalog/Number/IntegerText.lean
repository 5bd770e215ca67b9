import SqlCatalog.Text.Blank
import SqlCatalog.Text.DecimalDigit

/-!
# Integers Written as Text

The grammar of an integer in text: an optional sign and decimal digits of any
script, where single underscores may separate the digits and blanks may stand
around the whole. The four information separators, although blank elsewhere, are
not accepted around a number. Texts of more than 4300 digits are refused.

## Main definitions

* `readDigits`: The value of digits separated by single underscores.
* `readInteger`: The integer that a text stands for.
-/

namespace SqlCatalog

namespace Number

/-- A blank that may stand around a number. -/
def isMargin (c : Char) : Bool :=
  Text.isBlank c && !(0x1C ≤ c.toNat && c.toNat ≤ 0x1F)

/-- The longest row of digits that is read. -/
def maxDigits : Nat := 4300

/-- The values of digits of which any two may be separated by one underscore. -/
def digitValues : List Char → Option (List Nat)
  | [] => none
  | [c] => (Text.digitValue? c).map ([·])
  | c :: '_' :: rest => do
    let d ← Text.digitValue? c
    let ds ← digitValues rest
    return d :: ds
  | c :: rest => do
    let d ← Text.digitValue? c
    let ds ← digitValues rest
    return d :: ds

/-- The number written by a row of digits, most significant first. -/
def ofDigits (ds : List Nat) : Nat :=
  ds.foldl (fun n d => 10 * n + d) 0

/-- The value of digits separated by single underscores. -/
def readDigits (s : List Char) : Option Nat := do
  let ds ← digitValues s
  if ds.length ≤ maxDigits then some (ofDigits ds) else none

/-- The text without the blanks that may stand around a number. -/
def withoutMargins (s : List Char) : List Char :=
  ((s.dropWhile isMargin).reverse.dropWhile isMargin).reverse

/-- The integer that a text stands for. -/
def readInteger (s : List Char) : Option Int :=
  match withoutMargins s with
  | '+' :: ds => (readDigits ds).map Int.ofNat
  | '-' :: ds => (readDigits ds).map fun (n : Nat) => -(n : Int)
  | ds => (readDigits ds).map Int.ofNat

end Number

end SqlCatalog
