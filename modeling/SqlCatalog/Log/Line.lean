import SqlCatalog.Log.Level

/-!
# Log Lines

How a record is written: its time, the part of the library it comes from, its
level and its message. A console may show the whole line in the color of the
level. Other layouts name the parts that they want.

## Main definitions

* `Entry`: A record as it is written.
* `LineLayout.ofText`: A layout from a text with named parts.
* `Entry.line`: The line of a record.
* `Entry.colored`: A line in the color of its level.
-/

namespace SqlCatalog

/-- A record as it is written: where it comes from, its level and its message. -/
structure Entry where
  logger : String
  level : Int
  message : String

/-- A record of the library, ready to be written. -/
def LogRecord.entry (r : LogRecord) : Entry :=
  ⟨r.source.name, r.level.number, r.message⟩

/-- A part of a line. -/
inductive LinePart where
  | text (s : String)
  | logger
  | levelName
  | levelNumber
  | message
deriving DecidableEq

/-- The parts of a line, in order. -/
abbrev LineLayout := List LinePart

namespace LineLayout

/-- The part that is written for a name. -/
def part? (name : List Char) : Option LinePart :=
  [("name", LinePart.logger), ("levelname", .levelName), ("levelno", .levelNumber),
    ("message", .message)].lookup (String.ofList name)

/-- The layout with one more character of text at its front. -/
def push (c : Char) : LineLayout → LineLayout
  | .text s :: rest => .text (String.ofList (c :: s.toList)) :: rest
  | rest => .text c.toString :: rest

/-- The layout that a text describes. A part is named in parentheses between a percent
    sign and a letter; a doubled percent sign is one. -/
def ofChars (s : List Char) : LineLayout :=
  match s with
  | [] => []
  | '%' :: '%' :: rest => push '%' (ofChars rest)
  | '%' :: '(' :: rest =>
    let name := rest.takeWhile (· != ')')
    match h : rest.drop (name.length + 1) with
    | letter :: after =>
      have : after.length < rest.length := by
        have := congrArg List.length h
        simp only [List.length_drop, List.length_cons] at this
        omega
      match part? name with
      | some part =>
        if letter == 's' || letter == 'd' then part :: ofChars after
        else push '%' (ofChars ('(' :: rest))
      | none => push '%' (ofChars ('(' :: rest))
    | [] => push '%' (ofChars ('(' :: rest))
  | c :: rest => push c (ofChars rest)
termination_by s.length
decreasing_by all_goals simp_wf <;> omega

/-- The layout that a text describes. -/
def ofText (s : String) : LineLayout := ofChars s.toList

/-- The layout of log lines, behind the time. -/
def standard : LineLayout :=
  [.logger, .text " - ", .levelName, .text " - ", .message]

end LineLayout

namespace Entry

/-- What is written for a part of a line. -/
def part (e : Entry) : LinePart → String
  | .text s => s
  | .logger => e.logger
  | .levelName => Level.name e.level
  | .levelNumber => toString e.level
  | .message => e.message

/-- The line of a record in a layout. -/
def line (layout : LineLayout) (e : Entry) : String :=
  String.join (layout.map e.part)

/-- A line in the color of the record's level. -/
def colored (line : String) (e : Entry) : String :=
  Level.color e.level ++ line ++ Level.plainColor

end Entry

end SqlCatalog
