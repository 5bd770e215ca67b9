import SqlCatalog.Text.CaseTable

/-!
# Letter Case

Upper and lower case of a whole text. The mappings are the full ones: a letter
may become several, as the sharp s becomes a double S, and a sigma in lower case
has one form at the end of a word and another elsewhere. Only the sigma looks at
its neighbours, so every other letter is mapped on its own.

## Main definitions

* `upperChar`, `upper`: Upper case of a letter and of a text.
* `lowerChar`, `lower`: Lower case of a letter and of a text.
* `isFinalSigma`: Whether a sigma stands at the end of a word.

## Theorems

* `upper_append`: Upper case is taken piece by piece.
* `upperChar_ascii`: An ASCII letter becomes its ASCII capital.
-/

namespace SqlCatalog

namespace Text

/-- The code point moved along the first run that covers it. -/
def moveCase (runs : List CaseRun) (c : Char) : Char :=
  match runs.find? (·.covers c.toNat) with
  | some run => Char.ofNat (run.move c.toNat)
  | none => c

/-- Upper case of one letter, which may be several letters. -/
def upperChar (c : Char) : List Char :=
  if c.toNat < 0x80 then [c.toUpper]
  else match upperExpansions.lookup c.toNat with
    | some expansion => expansion.map Char.ofNat
    | none => [moveCase upperRuns c]

/-- Upper case of a text. -/
def upper (s : List Char) : List Char :=
  s.flatMap upperChar

/-- The capital I with a dot, the one letter whose lower case is two characters. -/
def dottedCapitalI : Char := Char.ofNat 0x130

/-- Lower case of one letter that is not a sigma. -/
def lowerChar (c : Char) : List Char :=
  if c.toNat < 0x80 then [c.toLower]
  else if c = dottedCapitalI then ['i', Char.ofNat 0x307]
  else [moveCase lowerRuns c]

/-- Whether the nearest character that is not skipped has a case. -/
def meetsCased (s : List Char) : Bool :=
  match s.dropWhile (CodeSpan.covers caseIgnorableSpans) with
  | c :: _ => CodeSpan.covers casedSpans c
  | [] => false

/-- A sigma is final when a letter comes before it and none after it. The text
    before it is given nearest character first. -/
def isFinalSigma (before after : List Char) : Bool :=
  meetsCased before && !meetsCased after

/-- Lower case of the rest of a text, given what came before it, nearest first. -/
def lowerFrom (before : List Char) : List Char → List Char
  | [] => []
  | c :: rest =>
    let image :=
      if c = 'Σ' then [if isFinalSigma before rest then 'ς' else 'σ'] else lowerChar c
    image ++ lowerFrom (c :: before) rest

/-- Lower case of a text. -/
def lower (s : List Char) : List Char :=
  lowerFrom [] s

/-- Upper case of a string. -/
def uppercase (s : String) : String :=
  String.ofList (upper s.toList)

/-- Lower case of a string. -/
def lowercase (s : String) : String :=
  String.ofList (lower s.toList)

/-- Upper case looks at one letter at a time. -/
@[simp] theorem upper_append (s t : List Char) : upper (s ++ t) = upper s ++ upper t := by
  simp [upper]

/-- Inside ASCII the mapping is the one between the two rows of letters. -/
theorem upperChar_ascii {c : Char} (h : c.toNat < 0x80) : upperChar c = [c.toUpper] := by
  simp [upperChar, h]

end Text

end SqlCatalog
