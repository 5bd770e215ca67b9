import SqlCatalog.Text.Blank

/-!
# Styles of a Statement

A statement on one line, as logs show it, or with its clauses on lines of their own. The
library does not lay statements out itself. It asks a formatter for a layout, and a style
is what it asks for. What is asked for on one line has its blanks collapsed in addition,
and a blank text is left as it is.

## Main definitions

* `Layout.Request`, `Layout.Formatter`: What a formatter is asked for, and a formatter.
* `Layout.Style`: The styles, by name.
* `Layout.apply`: A text in a style.
* `Layout.format`: A text in a style that is given by name.
-/

namespace SqlCatalog

namespace Layout

/-- What a formatter is asked for. Without a column to wrap after, the items of a list are
    put below each other. -/
structure Request where
  reindent : Bool := false
  capitalKeywords : Bool := false
  spacedOperators : Bool := false
  stripBlanks : Bool := false
  indentWidth : Nat := 2
  wrapAfter : Option Nat := none
deriving DecidableEq

/-- Whatever lays a text out as it is asked to. -/
abbrev Formatter := Request → String → String

/-- The styles. -/
inductive Style where
  | compact
  | expanded
  | singleLine
deriving DecidableEq

namespace Style

/-- The name of a style. -/
def name : Style → String
  | .compact => "compact"
  | .expanded => "expanded"
  | .singleLine => "single_line"

/-- All styles. -/
def all : List Style := [.compact, .expanded, .singleLine]

/-- The style with a name. -/
def ofName? (name : String) : Option Style :=
  all.find? fun s => s.name == name

/-- What a style asks for. -/
def request : Style → Request
  | .compact =>
    { reindent := true, capitalKeywords := true, spacedOperators := true, wrapAfter := some 120 }
  | .expanded =>
    { reindent := true, capitalKeywords := true, spacedOperators := true, indentWidth := 4 }
  | .singleLine => { stripBlanks := true }

end Style

/-- Every run of blanks as one blank. -/
def squeeze (s : String) : String :=
  String.ofList ([' '].intercalate (Text.words s.toList))

/-- A text in a style. A blank text is returned as it is. -/
def apply (f : Formatter) (style : Style) (sql : String) : String :=
  if Text.allBlank sql.toList then sql
  else match style with
    | .singleLine => squeeze (f style.request sql)
    | _ => f style.request sql

/-- What a caller is told about a style that does not exist. -/
def unknownStyle (name : String) : String :=
  "Unknown SQL format style: " ++ name

/-- A text in a style that is given by name. The style of a blank text is not looked at;
    for any other text the style has to exist. -/
def format (f : Formatter) (style : String) (sql : String) : Except String String :=
  match Style.ofName? style with
  | some s => .ok (apply f s sql)
  | none => if Text.allBlank sql.toList then .ok sql else .error (unknownStyle style)

end Layout

end SqlCatalog
