import SqlCatalog.Text.Printable

/-!
# Quoted Text

Text as it is shown inside a message: between quotes, with everything that would
not read well written as an escape. Single quotes are preferred; a text that
holds single quotes and no double ones is put between double quotes instead, so
that nothing needs a backslash.

## Main definitions

* `quoteFor`: The quote that a text is put between.
* `quoted`: A text between quotes.
* `quotedBytes`: Bytes between quotes, after a small b.
-/

namespace SqlCatalog

namespace Text

/-- A number in hexadecimal with at least `width` digits, in small letters. -/
def hexPadded (width n : Nat) : List Char :=
  let digits := Nat.toDigits 16 n
  List.replicate (width - digits.length) '0' ++ digits

/-- The escape of a character that is not printable, as wide as its code point needs. -/
def codeEscape (c : Char) : List Char :=
  let n := c.toNat
  if n < 0x100 then '\\' :: 'x' :: hexPadded 2 n
  else if n < 0x10000 then '\\' :: 'u' :: hexPadded 4 n
  else '\\' :: 'U' :: hexPadded 8 n

/-- A character inside quotes. -/
def escapeChar (quote c : Char) : List Char :=
  if c = quote || c = '\\' then ['\\', c]
  else if c = '\t' then ['\\', 't']
  else if c = '\n' then ['\\', 'n']
  else if c = '\r' then ['\\', 'r']
  else if isPrintable c then [c]
  else codeEscape c

/-- Single quotes, unless the text has some and no double quotes. -/
def quoteFor (s : List Char) : Char :=
  if s.contains '\'' && !s.contains '"' then '"' else '\''

/-- The text between quotes, with escapes. -/
def quoted (s : String) : String :=
  let quote := quoteFor s.toList
  String.ofList (quote :: s.toList.flatMap (escapeChar quote) ++ [quote])

/-- A byte inside quotes: an ASCII character as itself, any other byte as two digits. -/
def escapeByte (quote : Char) (b : UInt8) : List Char :=
  let c := Char.ofNat b.toNat
  if b.toNat < 0x80 then escapeChar quote c else '\\' :: 'x' :: hexPadded 2 b.toNat

/-- The bytes between quotes, after a small b. -/
def quotedBytes (data : List UInt8) : String :=
  let quote := quoteFor (data.map fun b => Char.ofNat b.toNat)
  String.ofList ('b' :: quote :: data.flatMap (escapeByte quote) ++ [quote])

end Text

end SqlCatalog
