import SqlCatalog.Value.Basic

/-!
# Values as JSON

Values written as JSON in ASCII: every other character is escaped by its UTF-16
units. Values that JSON does not know are written as texts.

## Main definitions

* `Value.json`: A value as JSON.
-/

namespace SqlCatalog

namespace Json

/-- The escape of one UTF-16 unit. -/
def unitEscape (n : Nat) : List Char :=
  '\\' :: 'u' :: Text.hexPadded 4 n

/-- A character inside a JSON text. -/
def escapeChar (c : Char) : List Char :=
  let n := c.toNat
  if c = '"' || c = '\\' then ['\\', c]
  else if 0x20 ≤ n && n ≤ 0x7E then [c]
  else if n = 0x08 then ['\\', 'b']
  else if n = 0x09 then ['\\', 't']
  else if n = 0x0A then ['\\', 'n']
  else if n = 0x0C then ['\\', 'f']
  else if n = 0x0D then ['\\', 'r']
  else if n < 0x10000 then unitEscape n
  else unitEscape (0xD800 + (n - 0x10000) / 0x400) ++ unitEscape (0xDC00 + (n - 0x10000) % 0x400)

/-- A JSON text. -/
def quote (s : String) : String :=
  String.ofList ('"' :: s.toList.flatMap escapeChar ++ ['"'])

/-- A number with a point as JSON, with names for those that have no digits. -/
def number (x : Binary64) : String :=
  match x with
  | .nan => "NaN"
  | .infinite negative => if negative then "-Infinity" else "Infinity"
  | x => x.render Value.floatLayout

end Json

namespace Value

mutual

/-- A value as JSON. -/
def json : Value → String
  | .null => "null"
  | .bool b => if b then "true" else "false"
  | .int n => toString n
  | .float x => Json.number x
  | .text s => Json.quote s
  | .list items => "[" ++ ", ".intercalate (jsonItems items) ++ "]"
  | .map entries => "\x7b" ++ ", ".intercalate (jsonEntries entries) ++ "\x7d"
  | v => Json.quote v.plain

/-- The items of a list as JSON. -/
def jsonItems : List Value → List String
  | [] => []
  | v :: rest => json v :: jsonItems rest

/-- The entries of a map as JSON. -/
def jsonEntries : List (Value × Value) → List String
  | [] => []
  | (k, v) :: rest => (Json.quote k.plain ++ ": " ++ json v) :: jsonEntries rest

end

end Value

end SqlCatalog
