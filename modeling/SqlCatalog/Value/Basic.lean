import SqlCatalog.Number.Shortest
import SqlCatalog.Text.Quoted
import SqlCatalog.Value.Calendar

/-!
# Values

The values that callers pass in and that a database hands back. Callers are not
typed, so wherever the library receives one of their values it receives a
`Value` and says itself which kinds it accepts.

## Main definitions

* `Value`: A dynamic value.
* `Value.isTruthy`: Whether a value counts as present.
* `Value.shown`: A value as a message quotes it.
* `Value.plain`: A value as text, a text being itself.
-/

namespace SqlCatalog

/-- The three containers of bytes. They hold the same data and are shown alike;
    only a fixed one can serve as a key. -/
inductive BytesForm where
  | fixed
  | growable
  | view
deriving DecidableEq

/-- A value of a caller or of a database. A map keeps its entries in the order in
    which they were put in. -/
inductive Value where
  | null
  | bool (b : Bool)
  | int (n : Int)
  | float (x : Binary64)
  | text (s : String)
  | bytes (form : BytesForm) (data : List UInt8)
  | timestamp (t : Timestamp)
  | date (d : Date)
  | list (items : List Value)
  | map (entries : List (Value × Value))
deriving Inhabited

namespace Value

/-- Numbers are shown with the fewest digits that read back, positionally from a
    ten-thousandth up to 10¹⁶ and with a signed exponent of two digits elsewhere. -/
def floatLayout : DecimalLayout := ⟨-3, 16, 2⟩

/-- Null, false, zero and everything empty count as absent. -/
def isTruthy : Value → Bool
  | .null => false
  | .bool b => b
  | .int n => n != 0
  | .float x => !x.isZero
  | .text s => s != ""
  | .bytes _ data => !data.isEmpty
  | .timestamp _ => true
  | .date _ => true
  | .list items => !items.isEmpty
  | .map entries => !entries.isEmpty

mutual

/-- A value as a message quotes it. -/
def shown : Value → String
  | .null => "None"
  | .bool b => if b then "True" else "False"
  | .int n => toString n
  | .float x => x.render floatLayout
  | .text s => Text.quoted s
  | .bytes .fixed data => Text.quotedBytes data
  | .bytes .growable data => "bytearray(" ++ Text.quotedBytes data ++ ")"
  | .bytes .view data => "<memory of " ++ toString data.length ++ " bytes>"
  | .timestamp t => t.constructor
  | .date d => d.constructor
  | .list items => "[" ++ ", ".intercalate (shownItems items) ++ "]"
  | .map entries => "\x7b" ++ ", ".intercalate (shownEntries entries) ++ "\x7d"

/-- The items of a list as a message quotes them. -/
def shownItems : List Value → List String
  | [] => []
  | v :: rest => shown v :: shownItems rest

/-- The entries of a map as a message quotes them. -/
def shownEntries : List (Value × Value) → List String
  | [] => []
  | (k, v) :: rest => (shown k ++ ": " ++ shown v) :: shownEntries rest

end

/-- A value as text: a text is itself, calendar values are written in their usual
    form, everything else as a message quotes it. -/
def plain : Value → String
  | .text s => s
  | .timestamp t => t.iso " "
  | .date d => d.iso
  | v => v.shown

/-- The text of a value that is one. -/
def text? : Value → Option String
  | .text s => some s
  | _ => none

/-- The integer of a value that counts as one; a truth value counts as 0 or 1. -/
def whole? : Value → Option Int
  | .int n => some n
  | .bool b => some b.toNat
  | _ => none

/-- A value that may be absent. -/
def ofOption : Option Value → Value
  | some v => v
  | none => .null

end Value

end SqlCatalog
