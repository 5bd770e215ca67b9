/-!
# Dates and Timestamps

The calendar values that a database hands back. They are kept as their parts,
since they are mostly written down; moments are also told apart and ordered.

## Main definitions

* `Date`, `Timestamp`: A day, and a moment with an optional offset.
* `Date.iso`: A day as year, month and day.
* `Timestamp.toSecond`: A moment to the second, for result sets.
* `Timestamp.iso`: A moment with all that it holds.
* `Timestamp.compare?`: Which of two moments comes first.
* `Date.constructor`, `Timestamp.constructor`: The shape used inside messages.
-/

namespace SqlCatalog

/-- A number in decimal with at least `width` digits. -/
def padded (width n : Nat) : String :=
  let digits := Nat.toDigits 10 n
  String.ofList (List.replicate (width - digits.length) '0' ++ digits)

/-- A day. -/
structure Date where
  year : Nat
  month : Nat
  day : Nat
deriving DecidableEq

/-- A moment; the offset from universal time is in seconds. -/
structure Timestamp where
  date : Date
  hour : Nat
  minute : Nat
  second : Nat
  micro : Nat
  offset : Option Int
deriving DecidableEq

namespace Date

/-- Year, month and day, as in `2024-03-01`. -/
def iso (d : Date) : String :=
  padded 4 d.year ++ "-" ++ padded 2 d.month ++ "-" ++ padded 2 d.day

/-- The day as a message shows it inside a list or a map. -/
def constructor (d : Date) : String :=
  s!"datetime.date({d.year}, {d.month}, {d.day})"

/-- How many days of a common year come before a month. -/
def daysBefore (month : Nat) : Nat :=
  [0, 31, 59, 90, 120, 151, 181, 212, 243, 273, 304, 334][month - 1]?.getD 0

/-- Whether the year has a leap day. -/
def isLeap (year : Nat) : Bool :=
  year % 4 == 0 && (year % 100 != 0 || year % 400 == 0)

/-- The number of the day, counted from the first one of the first year. -/
def ordinal (d : Date) : Nat :=
  let years := d.year - 1
  365 * years + years / 4 - years / 100 + years / 400 + daysBefore d.month
    + (if d.month > 2 && isLeap d.year then 1 else 0) + d.day

end Date

namespace Timestamp

/-- The microseconds of the clock on the wall, offset or not. -/
def wallMicros (t : Timestamp) : Int :=
  (((t.date.ordinal * 24 + t.hour) * 60 + t.minute) * 60 + t.second) * 1000000 + t.micro

/-- Which of two moments comes first. Moments with an offset are compared in universal
    time, those without by the clock on the wall, and the two kinds not at all. -/
def compare? (s t : Timestamp) : Option Ordering :=
  match s.offset, t.offset with
  | none, none => some (compare s.wallMicros t.wallMicros)
  | some a, some b => some (compare (s.wallMicros - a * 1000000) (t.wallMicros - b * 1000000))
  | _, _ => none

/-- Hour, minute and second, as in `14:05:09`. -/
def clock (t : Timestamp) : String :=
  padded 2 t.hour ++ ":" ++ padded 2 t.minute ++ ":" ++ padded 2 t.second

/-- The moment to the second with a blank between day and time; the year is
    written without leading zeros. -/
def toSecond (t : Timestamp) : String :=
  toString t.date.year ++ "-" ++ padded 2 t.date.month ++ "-" ++ padded 2 t.date.day ++ " "
    ++ t.clock

/-- An offset as hours and minutes, with seconds only when there are some. -/
def offsetText (offset : Int) : String :=
  let n := offset.natAbs
  let seconds := if n % 60 = 0 then "" else ":" ++ padded 2 (n % 60)
  (if offset < 0 then "-" else "+") ++ padded 2 (n / 3600) ++ ":" ++ padded 2 (n / 60 % 60)
    ++ seconds

/-- The moment with its fraction and offset where it has them. -/
def iso (separator : String) (t : Timestamp) : String :=
  t.date.iso ++ separator ++ t.clock
    ++ (if t.micro = 0 then "" else "." ++ padded 6 t.micro)
    ++ (match t.offset with | none => "" | some o => offsetText o)

/-- An offset as days and seconds, where a negative one counts back from a day. -/
def offsetConstructor (offset : Int) : String :=
  if offset = 0 then "datetime.timezone.utc"
  else
    let days := Int.fdiv offset 86400
    let seconds := Int.fmod offset 86400
    let parts := (if days = 0 then [] else [s!"days={days}"])
      ++ (if seconds = 0 then [] else [s!"seconds={seconds}"])
    "datetime.timezone(datetime.timedelta(" ++ ", ".intercalate parts ++ "))"

/-- The moment as a message shows it inside a list or a map: seconds and
    microseconds are left out from the end while they are zero. -/
def constructor (t : Timestamp) : String :=
  let fraction := if t.micro = 0 then [] else [t.micro]
  let seconds := if t.micro = 0 && t.second = 0 then [] else t.second :: fraction
  let numbers := [t.date.year, t.date.month, t.date.day, t.hour, t.minute] ++ seconds
  let zone := match t.offset with
    | none => []
    | some o => ["tzinfo=" ++ offsetConstructor o]
  "datetime.datetime(" ++ ", ".intercalate (numbers.map toString ++ zone) ++ ")"

end Timestamp

end SqlCatalog
