/-!
# Dates and times

A *moment* is a calendar date, a time of day, or a date with a time and, when
one is given, an offset from UTC.  Configuration formats write them
(`1979-05-27`, `07:32:00.5`, `1979-05-27 07:32:00-07:00`), and a moment keeps
their fields to the microsecond.

* A date is valid when its year is 1 to 9999, its month 1 to 12 and its day
  within that month of the Gregorian calendar; a time of day is valid below
  24:00:00; an offset is less than a day either way.
* The *text* of a moment is its ISO form with a space between date and time:
  the fraction of a second in six places when it is not zero, the offset as
  `+HH:MM` or `-HH:MM`.
* The *description* of a moment names its type and fields, as messages quote
  it: `datetime.date(1979, 5, 27)`, with the seconds and microseconds left out
  while they are zero from the end, and the offset as a zone of so many days
  and seconds east, or `utc`.
* Two moments are the *same* when they are of one kind with equal fields; two
  with offsets are the same when they name the same instant, and one with and
  one without an offset never are.
-/

namespace ScriptGate

/-- A day of the Gregorian calendar. -/
structure Date where
  /-- The year. -/
  year : Nat
  /-- The month, 1 to 12. -/
  month : Nat
  /-- The day of the month, from 1. -/
  day : Nat
deriving DecidableEq, Inhabited

/-- A time of day, to the microsecond. -/
structure Clock where
  /-- The hour, 0 to 23. -/
  hour : Nat
  /-- The minute. -/
  minute : Nat
  /-- The second. -/
  second : Nat
  /-- The microsecond. -/
  micro : Nat
deriving DecidableEq, Inhabited

/-- A date, a time of day, or both, with an offset in minutes east of UTC when one
is given. -/
inductive Moment where
  /-- A day. -/
  | date (d : Date)
  /-- A time of day. -/
  | time (t : Clock)
  /-- A day and a time of day on it. -/
  | dateTime (d : Date) (t : Clock) (offset : Option Int)
deriving DecidableEq, Inhabited

namespace Date

/-- Whether a year has a 29th of February. -/
def isLeap (y : Nat) : Bool := y % 4 == 0 && (y % 100 != 0 || y % 400 == 0)

/-- The number of days of a month. -/
def daysIn (y m : Nat) : Nat :=
  if m = 2 then (if isLeap y then 29 else 28)
  else if m = 4 || m = 6 || m = 9 || m = 11 then 30
  else 31

/-- Whether a date is a day of the calendar. -/
def valid (d : Date) : Bool :=
  1 ≤ d.year && d.year ≤ 9999 && 1 ≤ d.month && d.month ≤ 12 && 1 ≤ d.day &&
    d.day ≤ daysIn d.year d.month

/-- The days from the first of January of the year 1 to a date, that day counted. -/
def ordinal (d : Date) : Nat :=
  let y := d.year - 1
  let beforeYear := y * 365 + y / 4 - y / 100 + y / 400
  let beforeMonth := ((List.range (d.month - 1)).map fun i => daysIn d.year (i + 1)).foldl (· + ·) 0
  beforeYear + beforeMonth + d.day

end Date

namespace Clock

/-- Whether a time is a time of day. -/
def valid (t : Clock) : Bool :=
  t.hour < 24 && t.minute < 60 && t.second < 60 && t.micro < 1000000

/-- The microseconds from midnight. -/
def micros (t : Clock) : Nat :=
  ((t.hour * 60 + t.minute) * 60 + t.second) * 1000000 + t.micro

end Clock

namespace Moment

/-- Whether an offset in minutes is less than a day. -/
def offsetValid (minutes : Int) : Bool := minutes.natAbs < 1440

/-- Digits of `n`, padded with zeros to `width`. -/
def padded (width n : Nat) : String :=
  let ds := toString n
  String.ofList (List.replicate (width - ds.length) '0') ++ ds

/-- A date as `YYYY-MM-DD`. -/
def dateText (d : Date) : String :=
  padded 4 d.year ++ "-" ++ padded 2 d.month ++ "-" ++ padded 2 d.day

/-- A time as `HH:MM:SS`, with six places of fraction when there is one. -/
def clockText (t : Clock) : String :=
  padded 2 t.hour ++ ":" ++ padded 2 t.minute ++ ":" ++ padded 2 t.second ++
    (if t.micro = 0 then "" else "." ++ padded 6 t.micro)

/-- An offset as a sign, hours and minutes. -/
def offsetText (minutes : Int) : String :=
  let m := minutes.natAbs
  (if minutes < 0 then "-" else "+") ++ padded 2 (m / 60) ++ ":" ++ padded 2 (m % 60)

/-- The ISO text of a moment, a space between date and time. -/
def text : Moment → String
  | date d => dateText d
  | time t => clockText t
  | dateTime d t none => dateText d ++ " " ++ clockText t
  | dateTime d t (some z) => dateText d ++ " " ++ clockText t ++ offsetText z

/-- The fields of a time of day as a description lists them: the seconds and the
microseconds only while they are not zero from the end. -/
def clockFields (t : Clock) : List Nat :=
  if t.micro ≠ 0 then [t.hour, t.minute, t.second, t.micro]
  else if t.second ≠ 0 then [t.hour, t.minute, t.second]
  else [t.hour, t.minute]

/-- A zone of a fixed offset, as a description names it. -/
def zoneDescription (minutes : Int) : String :=
  if minutes = 0 then "datetime.timezone.utc"
  else
    let total := minutes * 60
    let days := total.fdiv 86400
    let seconds := total - days * 86400
    let parts := (if days ≠ 0 then ["days=" ++ toString days] else []) ++
      (if seconds ≠ 0 then ["seconds=" ++ toString seconds] else [])
    "datetime.timezone(datetime.timedelta(" ++ ", ".intercalate parts ++ "))"

/-- Numbers separated by commas. -/
def fieldList (ns : List Nat) : String := ", ".intercalate (ns.map toString)

/-- A moment as messages quote it. -/
def describe : Moment → String
  | date d => "datetime.date(" ++ fieldList [d.year, d.month, d.day] ++ ")"
  | time t => "datetime.time(" ++ fieldList (clockFields t) ++ ")"
  | dateTime d t zone =>
    "datetime.datetime(" ++ fieldList ([d.year, d.month, d.day] ++ clockFields t) ++
      (match zone with
       | some z => ", tzinfo=" ++ zoneDescription z
       | none => "") ++ ")"

/-- The name of a moment's type. -/
def typeName : Moment → String
  | date _ => "date"
  | time _ => "time"
  | dateTime .. => "datetime"

/-- The microseconds from the start of the calendar to a date and time, read in UTC
when it has an offset. -/
def instant (d : Date) (t : Clock) (offset : Int) : Int :=
  ((d.ordinal * 86400000000 + t.micros : Nat) : Int) - offset * 60000000

/-- Whether two moments are the same. -/
def same : Moment → Moment → Bool
  | date a, date b => a == b
  | time a, time b => a == b
  | dateTime d t none, dateTime e u none => d == e && t == u
  | dateTime d t (some z), dateTime e u (some w) => instant d t z == instant e u w
  | _, _ => false

end Moment

end ScriptGate
