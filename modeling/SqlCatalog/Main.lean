import SqlCatalog.CommandLine.Run
import SqlCatalog.Layout.Clauses

/-!
# The Program

Reads what a run needs, lets the run happen, and writes what it leaves. Whatever
is decided is decided elsewhere.

## Main definitions

* `Program.surroundings`: What a run finds.
* `Program.finish`: Writing what it leaves.
* `main`: The program.
-/

namespace SqlCatalog

namespace Program

open CommandLine

/-- The document in a file, nothing when there is no such file. -/
def readDocument (path : String) : IO (Option Document) := do
  try
    let text ← IO.FS.readFile path
    return some (Document.ofText text)
  catch _ => return none

/-- The variables that give settings, as far as they are set. -/
def readEnvironment : IO Environment := do
  let found ← Settings.variableNames.mapM fun (name, _) => do
    let v ← IO.getEnv name
    return v.map fun s => (name, s)
  return found.filterMap id

/-- What a run of an invocation finds. -/
def surroundings (i : Invocation) : IO Surroundings := do
  let config := Text.tidyPath i.config
  let document ← if i.config.isEmpty then pure none else readDocument config
  let input ← match i.command with
    | some (.validate "-") => (← IO.getStdin).readToEnd
    | _ => pure ""
  return ⟨fun path => if path = config then document else none, ← readEnvironment, input, "",
    Layout.byClauses⟩

/-- Writes what a run leaves, and hands on its exit code. Log files are continued, and
    their directories are made. -/
def finish (r : RunResult) : IO UInt32 := do
  for (path, text) in r.written.files do
    IO.FS.createDirAll (Text.parentPath path)
    let file ← IO.FS.Handle.mk path .append
    file.putStr text
  IO.eprint r.written.console
  IO.print r.output
  return r.exitCode.toUInt32

end Program

end SqlCatalog

/-- The program. -/
def main (words : List String) : IO UInt32 :=
  match SqlCatalog.CommandLine.Invocation.parse words with
  | .error e => SqlCatalog.Program.finish e.result
  | .ok i => do
    let found ← SqlCatalog.Program.surroundings i
    SqlCatalog.Program.finish (i.run found)
