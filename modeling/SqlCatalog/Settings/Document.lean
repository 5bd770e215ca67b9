import SqlCatalog.Settings.Scalar
import SqlCatalog.Value.Equality

/-!
# Documents

The part of YAML that a settings file needs: one mapping of scalars, a line for
each entry, with comments and blank lines between them. A file may also hold
nothing, which is an empty mapping, or something that is no mapping, which is
told apart from a file that is not well formed.

## Main definitions

* `Document`: What a file holds.
* `Document.ofText`: The document that a text writes.
-/

namespace SqlCatalog

/-- What a file holds: a mapping, something else, or nothing that is well formed. -/
inductive Document where
  | unreadable
  | other
  | mapping (entries : List (Value × Value))

namespace Document

/-- Whether a character may stand in a file. -/
def isAllowed (c : Char) : Bool :=
  let n := c.toNat
  n == 0x09 || n == 0x0A || n == 0x0D || (0x20 ≤ n && n ≤ 0x7E) || n == 0x85
    || (0xA0 ≤ n && n != 0xFFFE && n != 0xFFFF)

/-- Whether a character ends a line. -/
def isBreak (c : Char) : Bool :=
  c == '\n' || c.toNat == 0x85 || c.toNat == 0x2028 || c.toNat == 0x2029

/-- A text with every line ended by one character. -/
def unifyBreaks : List Char → List Char
  | '\r' :: '\n' :: rest => '\n' :: unifyBreaks rest
  | '\r' :: rest => '\n' :: unifyBreaks rest
  | c :: rest => c :: unifyBreaks rest
  | [] => []

/-- The lines of a text. -/
def lines : List Char → List (List Char)
  | [] => [[]]
  | c :: rest =>
    if isBreak c then [] :: lines rest
    else match lines rest with
      | [] => [[c]]
      | first :: more => (c :: first) :: more

/-- A line with something on it: how far it is indented, and its text. -/
structure Line where
  indent : Nat
  text : List Char

/-- The text behind its spaces. -/
def skipSpaces (s : List Char) : List Char := s.dropWhile (· == ' ')

/-- The line, unless it is empty or a comment. -/
def line? (s : List Char) : Option Line :=
  let text := skipSpaces s
  match text with
  | [] => none
  | '#' :: _ => none
  | _ => some ⟨s.length - text.length, text⟩

/-- Whether nothing but a comment follows. -/
def isDone (s : List Char) : Bool :=
  match skipSpaces s with
  | [] => true
  | '#' :: _ => true
  | _ => false

/-- The content of a text in single quotes, in which a quote is written twice, and what
    follows it. -/
def singleQuoted : List Char → Option (List Char × List Char)
  | '\'' :: '\'' :: rest => (singleQuoted rest).map fun (s, after) => ('\'' :: s, after)
  | '\'' :: rest => some ([], rest)
  | c :: rest => (singleQuoted rest).map fun (s, after) => (c :: s, after)
  | [] => none

/-- The character that an escape of one letter stands for. -/
def escaped? : Char → Option Char
  | '0' => some (Char.ofNat 0)
  | 'a' => some (Char.ofNat 7)
  | 'b' => some (Char.ofNat 8)
  | 't' | '\t' => some '\t'
  | 'n' => some '\n'
  | 'v' => some (Char.ofNat 11)
  | 'f' => some (Char.ofNat 12)
  | 'r' => some '\r'
  | 'e' => some (Char.ofNat 27)
  | ' ' => some ' '
  | '"' => some '"'
  | '\\' => some '\\'
  | '/' => some '/'
  | 'N' => some (Char.ofNat 0x85)
  | '_' => some (Char.ofNat 0xA0)
  | 'L' => some (Char.ofNat 0x2028)
  | 'P' => some (Char.ofNat 0x2029)
  | _ => none

/-- How many digits an escape by number has. -/
def escapeWidth? : Char → Option Nat
  | 'x' => some 2
  | 'u' => some 4
  | 'U' => some 8
  | _ => none

/-- The content of a text in double quotes, in which a backslash escapes, and what
    follows it. -/
def doubleQuoted (s : List Char) : Option (List Char × List Char) :=
  match s with
  | [] => none
  | '"' :: rest => some ([], rest)
  | '\\' :: c :: rest =>
    match escaped? c, escapeWidth? c with
    | some d, _ => (doubleQuoted rest).map fun (s, after) => (d :: s, after)
    | none, some width =>
      match (rest.take width).mapM Scalar.hexValue? with
      | none => none
      | some digits =>
        if digits.length < width then none
        else (doubleQuoted (rest.drop width)).map fun (s, after) =>
          (Char.ofNat (digits.foldl (fun n d => 16 * n + d) 0) :: s, after)
    | none, none => none
  | c :: rest => (doubleQuoted rest).map fun (s, after) => (c :: s, after)
termination_by s.length
decreasing_by all_goals simp_wf <;> omega

/-- Whether a word may begin like this. -/
def beginsPlain : List Char → Bool
  | c :: rest =>
    if c == '-' || c == '?' || c == ':' then rest.head?.any (· != ' ')
    else !",[]\x7b\x7d#&*!|>'\"%@\x60".toList.contains c
  | [] => false

/-- A word and what follows it: a colon before a space or the end, a comment, or
    nothing. -/
def plainWord : List Char → List Char × List Char
  | [] => ([], [])
  | [':'] => ([], [':'])
  | ':' :: ' ' :: rest => ([], ':' :: ' ' :: rest)
  | ' ' :: '#' :: rest => ([], ' ' :: '#' :: rest)
  | c :: rest => let (word, after) := plainWord rest; (c :: word, after)

/-- A word without the spaces at its end. -/
def trimSpaces (s : List Char) : List Char :=
  (s.reverse.dropWhile (· == ' ')).reverse

/-- A scalar and what follows it, nothing when it is not well formed. -/
def scalar? (s : List Char) : Option (Value × List Char) :=
  match s with
  | '\'' :: rest => (singleQuoted rest).map fun (t, after) => (.text (String.ofList t), after)
  | '"' :: rest => (doubleQuoted rest).map fun (t, after) => (.text (String.ofList t), after)
  | s =>
    let (word, after) := plainWord s
    if beginsPlain s && !word.contains '\t' then some (Scalar.resolve (trimSpaces word), after)
    else none

/-- The items between brackets, with the text behind the closing one. -/
def listItems (fuel : Nat) (s : List Char) : Option (List Value × List Char) :=
  match fuel, skipSpaces s with
  | _, ']' :: rest => some ([], rest)
  | 0, _ => none
  | fuel + 1, s =>
    let item := s.takeWhile fun c => c != ',' && c != ']'
    let after := s.drop item.length
    match scalar? item with
    | some (v, rest) =>
      if !isDone rest then none
      else match after with
        | ',' :: more => (listItems fuel more).map fun (vs, behind) => (v :: vs, behind)
        | ']' :: behind => some ([v], behind)
        | _ => none
    | none => none

/-- The value of an entry. -/
def value? (s : List Char) : Option Value :=
  match skipSpaces s with
  | [] => some .null
  | '[' :: rest => do
    let (items, after) ← listItems rest.length rest
    if isDone after then return .list items else none
  | ['\x7b', '\x7d'] => some (.map [])
  | rest =>
    if isDone s then some .null
    else do
      let (v, after) ← scalar? rest
      if isDone after then return v else none

/-- The key of an entry and the text of its value. -/
def key? (s : List Char) : Option (Value × List Char) := do
  let (key, after) ← scalar? s
  match skipSpaces after with
  | [':'] => some (key, [])
  | ':' :: ' ' :: rest => some (key, ' ' :: rest)
  | _ => none

/-- The entry on a line. -/
def entry? (l : Line) : Option (Value × Value) := do
  let (key, rest) ← key? l.text
  let v ← value? rest
  return (key, v)

/-- Whether a list begins on a line. -/
def beginsList (l : Line) : Bool :=
  l.text = ['-'] || l.text.take 2 = ['-', ' ']

/-- A mapping with an entry on every line. -/
def ofEntryLines (indent : Nat) (ls : List Line) : Document :=
  if ls.all (·.indent == indent) then
    match ls.mapM entry? with
    | some entries =>
      match Value.ofEntries entries with
      | .map entries => .mapping entries
      | _ => .unreadable
    | none => .unreadable
  else .unreadable

/-- A document that is no mapping by lines: a collection between brackets, or a scalar
    that may go on over several lines. -/
def ofOther (first : Line) (rest : List Line) : Document :=
  let whole := first.text
  match whole with
  | '[' :: items =>
    match listItems items.length items with
    | some (_, after) => if isDone after && rest.isEmpty then .other else .unreadable
    | none => .unreadable
  | '\x7b' :: '\x7d' :: after => if isDone after && rest.isEmpty then .mapping [] else .unreadable
  | _ =>
    match scalar? whole with
    | none => .unreadable
    | some (v, after) =>
      if !isDone after || rest.any (fun l => (key? l.text).isSome) then .unreadable
      else match v, rest with
        | .null, [] => .mapping []
        | _, _ => .other

/-- A text without the mark that may stand at its very beginning. -/
def skipMark : List Char → List Char
  | c :: rest => if c.toNat = 0xFEFF then rest else c :: rest
  | [] => []

/-- The document that a text writes. -/
def ofText (text : String) : Document :=
  let chars := skipMark (unifyBreaks text.toList)
  if !chars.all isAllowed then .unreadable
  else
    let ls := (lines chars).filterMap line?
    let ls := if (ls.head?.map (·.text)) = some ['-', '-', '-'] then ls.drop 1 else ls
    match ls with
    | [] => .mapping []
    | first :: rest =>
      if beginsList first then .other
      else if (key? first.text).isSome then ofEntryLines first.indent (first :: rest)
      else ofOther first rest

end Document

end SqlCatalog
