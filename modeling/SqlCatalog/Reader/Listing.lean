import SqlCatalog.Reader.Basic

/-!
# Listings

Objects of the catalogue, page by page. Where there is no total, a full page is
taken as a sign that more may follow.

## Main definitions

* `Listing`: A page of objects.
* `Listing.hasMore`: Whether more may follow.
* `Reader.listTables` and the like: The listings.
-/

namespace SqlCatalog

/-- A page of objects of one kind. -/
structure Listing where
  kind : String
  items : List Record
  page : Page

namespace Listing

/-- More may follow a page that is full. -/
def hasMore (l : Listing) : Bool := l.items.length = l.page.size

/-- The listing as a record of an answer. -/
def record (l : Listing) : Record :=
  [(l.kind, .list (l.items.map Record.value)), ("count", .int l.items.length)]
    ++ l.page.record ++ [("has_more", .bool l.hasMore)]

end Listing

namespace Reader

/-- Runs the query of a listing. -/
def listing (e : Engine) (kind : String) (page : Page) (q : Option Query)
    (lacking : String) : Inquiry Listing := do
  let r ← Inquiry.fetch e ("listing " ++ kind) q lacking
  return ⟨kind, r.records, page⟩

/-- The tables. -/
def listTables (f : Frame) (schema nameFilter pagination : Value) : Inquiry Listing := do
  let page ← f.listingPage pagination
  let e ← f.requireEngine
  let q ← Build.listTables e schema nameFilter page.window
  listing e "tables" page q "listing tables"

/-- The views. -/
def listViews (f : Frame) (schema nameFilter pagination : Value) : Inquiry Listing := do
  let e ← f.requireFeature .views
  let page ← f.listingPage pagination
  let q ← Build.listViews e schema nameFilter page.window
  listing e "views" page q Feature.views.title

/-- The triggers, those of one table or without the disabled ones when the caller says
    so. -/
def listTriggers (f : Frame) (schema table nameFilter includeDisabled pagination : Value) :
    Inquiry Listing := do
  let e ← f.requireFeature .triggers
  let page ← f.listingPage pagination
  let q ← Build.listTriggers e schema table nameFilter includeDisabled page.window
  listing e "triggers" page q Feature.triggers.title

/-- The stored procedures. -/
def listProcedures (f : Frame) (schema nameFilter pagination : Value) : Inquiry Listing := do
  let e ← f.requireFeature .procedures
  let page ← f.listingPage pagination
  let q ← Build.listProcedures e schema nameFilter page.window
  listing e "procedures" page q Feature.procedures.title

/-- The functions, all of them or those of one kind. -/
def listFunctions (f : Frame) (schema nameFilter kind pagination : Value) : Inquiry Listing := do
  let e ← f.requireFeature .functions
  let page ← f.listingPage pagination
  let q ← Build.listFunctions e schema nameFilter kind page.window
  listing e "functions" page q Feature.functions.title

/-- The schemas of the database. -/
def listSchemas (f : Frame) : Inquiry (List Value) := do
  let e ← f.requireFeature .schemas
  let q ← Build.listSchemas e
  let r ← Inquiry.fetch e "listing schemas" q Feature.schemas.title
  Catalog.firstCells r.rows

/-- The objects whose name, or whose definition, holds a term. -/
def searchObjects (f : Frame) (term inCode types : Value) : Inquiry (List Record) := do
  let e ← f.requireEngine
  let q ← Build.searchObjects e term inCode types
  let r ← Inquiry.fetch e "searching objects" q
  return r.records

end Reader

end SqlCatalog
