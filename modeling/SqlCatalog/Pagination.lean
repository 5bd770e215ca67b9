import SqlCatalog.Error
import SqlCatalog.Number.IntegerText

/-!
# Pagination

A page number and a page size, counted from one. Listings, table rows and
free-form queries have defaults and ceilings of their own, so reading the
arguments of a caller takes both; whatever the caller sends, reading never fails
on a sensible default and ceiling.

## Main definitions

* `Page`: A page number and a page size.
* `Page.make`: A page from its numbers, refused below one.
* `Page.ofArguments`: The page that a caller asks for.
* `Page.offset`, `Page.totalPages`, `Page.hasNext`: The arithmetic of pages.
-/

namespace SqlCatalog

/-- A page of a listing, counted from one. -/
structure Page where
  number : Int
  size : Int
deriving DecidableEq

namespace Page

/-- The page size of catalogue listings when the caller gives none. -/
def defaultSize : Int := 100

/-- The largest page of a catalogue listing. -/
def maxSize : Int := 500

/-- The page size of table rows when the caller gives none. -/
def defaultRowsSize : Int := 50

/-- The largest page of table rows. -/
def maxRowsSize : Int := 1000

/-- A page from its numbers; both have to be at least one. -/
def make (number size : Int) : Outcome Page :=
  if number < 1 then refuse (.input (.page number))
  else if size < 1 then refuse (.input (.pageSize size))
  else .ok ⟨number, size⟩

/-- The number that an argument stands for: an integer, a finite number without its
    fraction, or a text that reads as an integer. Everything else, a truth value
    included, counts as missing. -/
def numberOr (default : Int) : Value → Int
  | .null => default
  | .bool _ => default
  | .int n => n
  | .float x => x.truncate?.getD default
  | v => (Number.readInteger (Text.trim v.plain.toList)).getD default

/-- The page that a caller asks for. Numbers below one become the first page and
    the default size, and sizes above the ceiling are cut down to it. -/
def ofArguments (number size : Value) (defaultSize maxSize : Int) : Outcome Page :=
  let page := max (numberOr 1 number) 1
  let wanted := numberOr defaultSize size
  let size := if wanted < 1 then defaultSize else wanted
  make page (min size maxSize)

/-- How many items come before the page. -/
def offset (p : Page) : Int := (p.number - 1) * p.size

/-- How many items the page holds at most. -/
def limit (p : Page) : Int := p.size

/-- How many pages a number of items fills. -/
def totalPages (p : Page) (total : Int) : Int :=
  if total ≤ 0 then 0 else Int.fdiv (total + p.size - 1) p.size

/-- Whether items follow the page. -/
def hasNext (p : Page) (total : Int) : Bool := p.number < p.totalPages total

/-- Whether a page comes before. -/
def hasPrevious (p : Page) : Bool := 1 < p.number

/-- The page as a record of a result. -/
def record (p : Page) : List (String × Value) :=
  [("page", .int p.number), ("page_size", .int p.size)]

/-- The page as a record of a result whose total is known. -/
def recordOf (p : Page) (total : Int) : List (String × Value) :=
  p.record ++
    [("total_count", .int total), ("total_pages", .int (p.totalPages total)),
      ("has_next", .bool (p.hasNext total)), ("has_previous", .bool p.hasPrevious)]

end Page

end SqlCatalog
