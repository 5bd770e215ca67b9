import SqlCatalog.Reader.Basic

/-!
# Definitions

The source texts of views, triggers, procedures and functions. An engine may
keep a text line by line; the lines are put together again.

## Main definitions

* `Reader.viewDefinition`, `Reader.triggerCode`, `Reader.procedureCode`,
  `Reader.functionCode`: The texts.
* `Reader.procedureParameters`: The declared parameters of a procedure.
-/

namespace SqlCatalog

namespace Reader

/-- Runs the query for a source text. A result without rows means that there is no such
    object. -/
def definition (e : Engine) (kind : String) (name : Value) (q : Option Query) (feature : Feature) :
    Inquiry String := do
  let r ← Inquiry.fetch e ("getting " ++ kind ++ " code") q feature.title
  if r.rows.isEmpty then refuse (.input (.notFound kind name.plain))
  return Catalog.joinSource r.rows

/-- The definition of a view. -/
def viewDefinition (f : Frame) (name schema : Value) : Inquiry String := do
  let schema ← f.resolveSchema schema
  let e ← f.requireFeature .views
  let q ← Build.getViewDefinition e name (.text schema)
  definition e "view" name q .views

/-- The source of a trigger. -/
def triggerCode (f : Frame) (name schema : Value) : Inquiry String := do
  let schema ← f.resolveSchema schema
  let e ← f.requireFeature .triggers
  let q ← Build.getTriggerCode e name (.text schema)
  definition e "trigger" name q .triggers

/-- The source of a stored procedure. -/
def procedureCode (f : Frame) (name schema : Value) : Inquiry String := do
  let e ← f.requireFeature .procedures
  let schema ← f.resolveSchema schema
  let q ← Build.getProcedureCode e name (.text schema)
  definition e "procedure" name q .procedures

/-- The source of a function. -/
def functionCode (f : Frame) (name schema : Value) : Inquiry String := do
  let e ← f.requireFeature .functions
  let schema ← f.resolveSchema schema
  let q ← Build.getFunctionCode e name (.text schema)
  definition e "function" name q .functions

/-- The declared parameters of a stored procedure. -/
def procedureParameters (f : Frame) (name schema : Value) : Inquiry (List ParameterInfo) := do
  let e ← f.requireFeature .procedures
  let schema ← f.resolveSchema schema
  let q ← Build.getProcedureParameters e name (.text schema)
  let r ← Inquiry.fetch e "getting procedure parameters" q Feature.procedures.title
  Catalog.decodeParameters r.rows

end Reader

end SqlCatalog
