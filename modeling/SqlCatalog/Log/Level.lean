import SqlCatalog.Log
import SqlCatalog.Signature
import SqlCatalog.Text.Case

/-!
# Level Numbers

Severities as numbers. A threshold or a record may carry any number, of which
only some have names; zero stands for no threshold of its own.

## Main definitions

* `Level.name`: The name of a number.
* `Level.ofName?`: The number with a name.
* `Level.color`: The color of a number.
* `Level.read`: The threshold that a value asks for.
-/

namespace SqlCatalog

namespace Level

/-- The name of a level: that of its severity, or one made from the number. -/
def name (number : Int) : String :=
  if number = 0 then "NOTSET"
  else match LogLevel.ofNumber? number with
    | some l => l.name
    | none => "Level " ++ toString number

/-- The severities that have another name besides their own. -/
def aliases : List (String × Int) :=
  [("WARN", LogLevel.warning.number), ("FATAL", LogLevel.critical.number), ("NOTSET", 0)]

/-- The number with a name. -/
def ofName? (name : String) : Option Int :=
  (LogLevel.ofName? name).map (·.number) <|> aliases.lookup name

/-- The code that switches a console to the color of a severity. -/
def severityColor : LogLevel → String
  | .debug => "\x1b[36m"
  | .info => "\x1b[39m"
  | .warning => "\x1b[33m"
  | .error => "\x1b[31m"
  | .critical => "\x1b[35m"

/-- The code that switches a console back. -/
def plainColor : String := "\x1b[0m"

/-- The code for a level. Numbers between the severities have the color of the mildest
    one that is shown. -/
def color (number : Int) : String :=
  severityColor ((LogLevel.ofNumber? number).getD .info)

/-- The threshold that a value asks for. A name that is not known asks for the usual
    one; what is neither a name nor a number is a misuse. -/
def read : Value → Outcome Int
  | .text s => .ok ((ofName? (Text.uppercase s)).getD LogLevel.info.number)
  | v => match v.whole? with
    | some n => .ok n
    | none => .error (.misuse .wrongKind)

end Level

end SqlCatalog
