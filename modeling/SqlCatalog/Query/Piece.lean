/-!
# Pieces of a Query

A query is kept as a list of pieces until it is run: fixed text, quoted names,
names of procedure parameters, and markers that stand for bound arguments. What
a caller hands in reaches the text only as a name that passed the identifier
grammar or not at all, and with the pieces apart this can be seen without
reading any SQL.

A template is a query with slots: places for a marker whose number is not known
yet, for a table that cannot be bound, or for the optional parts of a search.

## Main definitions

* `Slot`, `Piece`: What a query or a template is made of.
* `Template.fill`: A template with its slots filled.
-/

namespace SqlCatalog

/-- A place of a template that is filled when a query is built. -/
inductive Slot where
  | marker
  | table
  | codeSearch
  | typeFilter
deriving DecidableEq

namespace Slot

/-- The name of a slot, as it is shown when a template is written out. -/
def name : Slot → String
  | .marker => "placeholder"
  | .table => "table"
  | .codeSearch => "code_search"
  | .typeFilter => "type_filter"

end Slot

/-- A piece of a query. A marker stands for the argument with its number, counted
    from one. -/
inductive Piece where
  | sql (text : String)
  | name (identifier : String)
  | parameter (identifier : String)
  | marker (index : Int)
  | slot (s : Slot)
deriving DecidableEq

/-- A query with slots. -/
abbrev Template := List Piece

namespace Template

/-- The template with its slots filled. -/
def fill (content : Slot → List Piece) (t : Template) : List Piece :=
  t.flatMap fun
    | .slot s => content s
    | p => [p]

/-- The template with a marker in every marker slot. -/
def withMarker (index : Int) (t : Template) : List Piece :=
  fill (fun | .marker => [.marker index] | s => [.slot s]) t

/-- Filling a text goes piece by piece. -/
theorem fill_append (content : Slot → List Piece) (s t : Template) :
    fill content (s ++ t) = fill content s ++ fill content t := by
  simp [fill]

end Template

end SqlCatalog
