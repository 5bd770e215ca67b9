import SqlCatalog.Reader.Basic

/-!
# The Database as a Whole

Version, settings, object counts and schemas. What an engine cannot tell is left
empty, which is not an error here.

## Main definitions

* `DatabaseInfo`: What is known about a database.
* `Reader.databaseInfo`: The question.
-/

namespace SqlCatalog

/-- What is known about a database. -/
structure DatabaseInfo where
  engine : Engine
  version : String
  details : Option Record
  objectCounts : Option Record
  schemas : Option (List Value)

/-- What is known about a database as a record of an answer. -/
def DatabaseInfo.record (d : DatabaseInfo) : Record :=
  [("driver", .text d.engine.driverName), ("version", .text d.version),
    ("details", .ofOption (d.details.map Record.value)),
    ("object_counts", .ofOption (d.objectCounts.map Record.value)),
    ("schemas", .ofOption (d.schemas.map .list))]

namespace Reader

/-- The first row of a query that the engine may lack. -/
def firstRecord (e : Engine) (operation : String) (q : Option Query) :
    Inquiry (Option Record) := do
  match q with
  | none => return none
  | some q =>
    let r ← Inquiry.fetch e operation (some q)
    return r.records.head?

/-- What is known about the database. -/
def databaseInfo (f : Frame) : Inquiry DatabaseInfo := do
  let e ← f.requireEngine
  let q ← Build.databaseVersion e
  let r ← Inquiry.fetch e "getting database version" q
  let version ← match r.rows with
    | [] => pure ""
    | row :: _ => do
      let v ← Catalog.firstCell row
      pure v.plain
  let q ← Build.databaseDetails e
  let details ← firstRecord e "getting database details" q
  let q ← Build.objectCounts e
  let objectCounts ← firstRecord e "getting database object_counts" q
  let q ← Build.listSchemas e
  let schemas ← match q with
    | none => pure none
    | some q => do
      let r ← Inquiry.fetch e "listing schemas" (some q)
      let names ← Catalog.firstCells r.rows
      pure (some names)
  return ⟨e, version, details, objectCounts, schemas⟩

end Reader

end SqlCatalog
