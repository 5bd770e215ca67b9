import SqlCatalog.Number.DecimalText
import SqlCatalog.Value.Basic

/-!
# Plain Scalars

What an unquoted word of a YAML file stands for. Null, truth values, integers in
four bases, numbers with a point and dates have spellings of their own; every
other word is a text.

## Main definitions

* `Scalar.resolve`: The value of a plain scalar.
-/

namespace SqlCatalog

namespace Scalar

/-- The spellings of null. -/
def nullWords : List String := ["", "~", "null", "Null", "NULL"]

/-- The spellings of true. -/
def trueWords : List String :=
  ["yes", "Yes", "YES", "true", "True", "TRUE", "on", "On", "ON"]

/-- The spellings of false. -/
def falseWords : List String :=
  ["no", "No", "NO", "false", "False", "FALSE", "off", "Off", "OFF"]

/-- The value of a hexadecimal digit. -/
def hexValue? (c : Char) : Option Nat :=
  if c.isDigit then some (c.toNat - '0'.toNat)
  else if 'a' ≤ c && c ≤ 'f' then some (c.toNat - 'a'.toNat + 10)
  else if 'A' ≤ c && c ≤ 'F' then some (c.toNat - 'A'.toNat + 10)
  else none

/-- The number written by digits of a base, between which underscores may stand. -/
def inBase (base : Nat) (s : List Char) : Option Nat := do
  let digits ← (s.filter (· != '_')).mapM hexValue?
  if digits.isEmpty || !digits.all (· < base) then none
  else return digits.foldl (fun n d => base * n + d) 0

/-- The number written by digits of base sixty with colons between them. -/
def inSixties (s : List Char) : Option Nat := do
  let (first, others) := (s.takeWhile (· != ':'), s.dropWhile (· != ':'))
  let n ← inBase 10 first
  go n others
where
  /-- The number continued by the digits behind the colons. -/
  go (n : Nat) : List Char → Option Nat
    | [] => some n
    | [':', c] => (inBase 10 [c]).map fun d => 60 * n + d
    | ':' :: c :: ':' :: rest => do
      let d ← inBase 10 [c]
      go (60 * n + d) (':' :: rest)
    | ':' :: c :: d :: rest => do
      let k ← inBase 10 [c, d]
      if k < 60 then go (60 * n + k) rest else none
    | _ => none

/-- The number that a word without a sign stands for. -/
def magnitude? : List Char → Option Nat
  | '0' :: 'b' :: ds => inBase 2 ds
  | '0' :: 'x' :: ds => inBase 16 ds
  | '0' :: ds => if ds.all (· == '_') then some 0 else inBase 8 ds
  | '_' :: _ => none
  | ds => if ds.contains ':' then inSixties ds else inBase 10 ds

/-- A word without its sign, and whether the sign was a minus. -/
def signed : List Char → Bool × List Char
  | '-' :: rest => (true, rest)
  | '+' :: rest => (false, rest)
  | rest => (false, rest)

/-- The integer that a word stands for. -/
def integer? (s : List Char) : Option Int :=
  let (negative, body) := signed s
  (magnitude? body).map fun n => if negative then -(n : Int) else n

/-- Whether the exponent of a word, if it has one, is written with its sign. -/
def signsExponent (s : List Char) : Bool :=
  match s.dropWhile fun c => c != 'e' && c != 'E' with
  | [] => true
  | _ :: c :: _ => c == '+' || c == '-'
  | [_] => false

/-- The number with a point that a word stands for. -/
def float? (s : List Char) : Option Binary64 :=
  let (negative, body) := signed s
  match body with
  | ['.', 'i', 'n', 'f'] | ['.', 'I', 'n', 'f'] | ['.', 'I', 'N', 'F'] =>
    some (.infinite negative)
  | '.' :: c :: _ =>
    if [".nan", ".NaN", ".NAN"].contains (String.ofList s) then some .nan
    else if c.isDigit && body = s && signsExponent s then Binary64.read? (s.filter (· != '_'))
    else none
  | c :: _ =>
    if c.isDigit && body.contains '.' && signsExponent body then
      Binary64.read? (s.filter (· != '_'))
    else none
  | [] => none

/-- The date that a word stands for. -/
def date? (s : List Char) : Option Date :=
  match s with
  | [a, b, c, d, '-', e, f, '-', g, h] =>
    if [a, b, c, d, e, f, g, h].all Char.isDigit then do
      let y ← inBase 10 [a, b, c, d]
      let m ← inBase 10 [e, f]
      let n ← inBase 10 [g, h]
      return ⟨y, m, n⟩
    else none
  | _ => none

/-- The value of a plain scalar. -/
def resolve (s : List Char) : Value :=
  let word := String.ofList s
  if nullWords.contains word then .null
  else if trueWords.contains word then .bool true
  else if falseWords.contains word then .bool false
  else match integer? s, float? s, date? s with
    | some n, _, _ => .int n
    | none, some x, _ => .float x
    | none, none, some d => .date d
    | none, none, none => .text word

end Scalar

end SqlCatalog
