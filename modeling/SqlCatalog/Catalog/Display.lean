import SqlCatalog.Value.Basic

/-!
# Showing Result Values

Values of a result set made presentable. Bytes that are a text become one unless
they are many; bytes that are none are summarised by their number. Calendar
values are written to the second, everything else stays as it is.

## Main definitions

* `Catalog.display`: A value as a result set shows it.
* `Catalog.displayRow`: A row under the names of its columns.
-/

namespace SqlCatalog

namespace Catalog

/-- The most bytes that are shown as a text. -/
def maxShownBytes : Nat := 1000

/-- What is shown for bytes that are not shown themselves. -/
def bytesSummary (data : List UInt8) : String :=
  "<binary data: " ++ toString data.length ++ " bytes>"

/-- The text that bytes encode, or their summary. -/
def bytesText (data : List UInt8) : String :=
  if data.length > maxShownBytes then bytesSummary data
  else (String.fromUTF8? ⟨data.toArray⟩).getD (bytesSummary data)

/-- A value as a result set shows it. -/
def display : Value → Value
  | .bytes _ data => .text (bytesText data)
  | .timestamp t => .text t.toSecond
  | .date d => .text d.iso
  | v => v

/-- A record with one more field. A field that is present gets the new value. -/
def putField (fields : List (String × Value)) (name : String) (v : Value) :
    List (String × Value) :=
  if fields.any (·.1 == name) then fields.map fun f => if f.1 == name then (name, v) else f
  else fields ++ [(name, v)]

/-- A row under the names of its columns. Of columns with one name the last value is
    kept; cells without a column and columns without a cell are left out. -/
def displayRow (columns : List String) (row : List Value) : List (String × Value) :=
  (columns.zip row).foldl (fun fields (name, v) => putField fields name (display v)) []

end Catalog

end SqlCatalog
