import SqlCatalog.Log.Line
import SqlCatalog.Text.PathName

/-!
# Log Handlers

Where records go. Configuring installs a console and, when one is named, a log
file, in place of what an earlier configuration installed; a file is continued
and never cleared. As long as nothing is installed, warnings and worse reach the
console as bare messages.

## Main definitions

* `Handler`: A console or a file.
* `LogSetup`: The threshold and the handlers.
* `LogSetup.configure`: Another setup.
* `LogSetup.write`: What a record adds to the console and to the files.
-/

namespace SqlCatalog

/-- A place that records go to. -/
inductive Handler where
  | console (colored : Bool)
  | file (path : String)
deriving DecidableEq

/-- The threshold of the library and the places that its records go to. -/
structure LogSetup where
  threshold : Int := LogLevel.info.number
  handlers : List Handler := []

/-- What was written: to the console, and to each file. -/
structure Written where
  console : String := ""
  files : List (String × String) := []

namespace Written

/-- The text of a file, if there is one. -/
def file? (w : Written) (path : String) : Option String :=
  w.files.lookup (Text.tidyPath path)

/-- What was written, with more text in a file. -/
def extend (w : Written) (path text : String) : Written :=
  let old := (w.files.lookup path).getD ""
  { w with files := (path, old ++ text) :: w.files.filter (·.1 != path) }

/-- What was written, with one more line on the console. -/
def sayLine (w : Written) (line : String) : Written :=
  { w with console := w.console ++ line ++ "\n" }

end Written

namespace LogSetup

/-- The name of the library, under which all its records come. -/
def libraryName : String := "dbmcp"

/-- The setup for a threshold, a log file and a kind of console. -/
def make (threshold : Int) (file : Option String) (colored : Bool) : LogSetup :=
  ⟨threshold, .console colored :: (file.map fun f => Handler.file (Text.tidyPath f)).toList⟩

/-- What was written, with the files of a setup begun. -/
def beginFiles (setup : LogSetup) (w : Written) : Written :=
  setup.handlers.foldl (fun w h => match h with
    | .file path => w.extend path ""
    | .console _ => w) w

/-- What a caller may say about a setup. -/
def signature : Signature := ⟨[], ["level", "log_file", "use_color"]⟩

/-- The setup that a caller asks for. -/
def configure (named : Arguments) : Outcome LogSetup := do
  let given ← signature.bind named
  let threshold ← Level.read (given.valueOr "level" (.text LogLevel.info.name))
  let file := given.valueOr "log_file" .null
  return make threshold (if file.isTruthy then some file.plain else none)
    (given.valueOr "use_color" (.bool true)).isTruthy

/-- The threshold that applies. Without one of its own the library has that of its
    surroundings, which is a warning. -/
def applied (setup : LogSetup) : Int :=
  if setup.threshold = 0 then LogLevel.warning.number else setup.threshold

/-- Whether a record comes from the library. -/
def owns (e : Entry) : Bool :=
  e.logger == libraryName || (libraryName ++ ".").toList.isPrefixOf e.logger.toList

/-- What a handler writes for a record, given what stands before each line. -/
def writeTo (stamp : String) (e : Entry) (w : Written) : Handler → Written
  | .console colored =>
    let line := stamp ++ e.line LineLayout.standard
    w.sayLine (if colored then e.colored line else line)
  | .file path => w.extend path (stamp ++ e.line LineLayout.standard ++ "\n")

/-- What was written, with a record that nobody handles: a warning or worse is said on
    the console without any ornament. -/
def writeBare (e : Entry) (w : Written) : Written :=
  if e.level < LogLevel.warning.number then w else w.sayLine e.message

/-- What was written, with one more record. A record without a level is dropped whatever
    the threshold. -/
def write (setup : LogSetup) (stamp : String) (e : Entry) (w : Written) : Written :=
  if e.level ≤ 0 then w
  else if !owns e then writeBare e w
  else if e.level < setup.applied then w
  else if setup.handlers.isEmpty then writeBare e w
  else setup.handlers.foldl (writeTo stamp e) w

/-- What was written, with more records. -/
def writeAll (setup : LogSetup) (stamp : String) (records : List LogRecord) (w : Written) :
    Written :=
  records.foldl (fun w r => setup.write stamp r.entry w) w

end LogSetup

end SqlCatalog
