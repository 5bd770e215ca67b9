import SqlCatalog.Catalog.Display
import SqlCatalog.Session.Inquiry

/-!
# Readers

A reader answers questions about the database of a session. All it knows when a
call begins is its frame: the engine when something is connected, the default
schema, and its ceilings. Everything else it has to ask for, so a call is an
inquiry that is computed from the frame and the arguments alone.

## Main definitions

* `Frame`: What a reader knows beforehand.
* `Frame.page`: The page that a caller asks for.
* `Frame.resolveSchema`: The schema in which a name is looked up.
* `Record`: The fields of an answer.
-/

namespace SqlCatalog

/-- The fields of an answer, in order. -/
abbrev Record := List (String × Value)

/-- A record as a value. -/
def Record.value (r : Record) : Value :=
  .map (r.map fun (name, v) => (.text name, v))

/-- The rows of a result as records. -/
def ResultSet.records (r : ResultSet) : List Record :=
  r.rows.map (Catalog.displayRow r.columns)

/-- What a reader knows when a call begins. -/
structure Frame where
  engine : Option Engine
  defaultSchema : String
  limits : Limits

/-- What a reader of a session knows. -/
def Session.frame {σ : Type} (s : Session σ) : Frame :=
  ⟨s.context.active?.map (·.2), s.context.defaultSchema, s.limits⟩

namespace Frame

/-- The engine, unless nothing is connected. -/
def requireEngine (f : Frame) : Outcome Engine :=
  match f.engine with
  | some e => .ok e
  | none => refuse (.noConnection "")

/-- The engine, unless it lacks a feature. -/
def requireFeature (f : Frame) (feature : Feature) : Outcome Engine := do
  let e ← f.requireEngine
  if e.supports feature then return e
  else refuse (.unsupported feature.title)

/-- The fields of a caller's mapping, none when it is absent. -/
def fieldsOf (v : Value) : Outcome (List (Value × Value)) :=
  match v with
  | .map entries => .ok entries
  | v => if v.isTruthy then .error (.misuse .notText) else .ok []

/-- The page that a caller asks for. -/
def page (args : Value) (defaultSize maxSize : Int) : Outcome Page := do
  let fields ← fieldsOf args
  Page.ofArguments (Value.field "page" fields) (Value.field "page_size" fields) defaultSize maxSize

/-- The page of a catalogue listing that a caller asks for. -/
def listingPage (f : Frame) (args : Value) : Outcome Page :=
  page args Page.defaultSize f.limits.pageSize

/-- The page of table rows that a caller asks for. A ceiling of zero stands for that of
    the listings. -/
def rowsPage (f : Frame) (args : Value) : Outcome Page :=
  page args Page.defaultRowsSize
    (if f.limits.rowsPageSize = 0 then f.limits.pageSize else f.limits.rowsPageSize)

/-- The schema in which a name is looked up: the caller's, else the default one, else
    the current schema of the connection on engines that have schemas. -/
def resolveSchema (f : Frame) (schema : Value) : Inquiry String := do
  let e ← f.requireEngine
  let resolved ← Identifier.resolveSchema schema f.defaultSchema
  if resolved = "" && e.supports .schemas then .currentSchema pure
  else return resolved

end Frame

/-- The window that a page stands for. -/
def Page.window (p : Page) : Window :=
  ⟨.int p.limit, .int p.offset⟩

end SqlCatalog
