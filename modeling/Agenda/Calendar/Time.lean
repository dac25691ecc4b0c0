import Agenda.Calendar.Date

/-!
# Times

A time is a date with hour, minute, second and millisecond.  It is written with a blank
between date and time for a reader, and as a time stamp within a task.
-/

namespace Agenda.Calendar

/-- A date and a time of day. -/
structure Time where
  date : Date
  hour : Nat
  minute : Nat
  second : Nat
  millisecond : Nat
deriving DecidableEq

namespace Time

/-- Hour, minute and second with colons between them. -/
def clock (t : Time) : String :=
  Date.padded 2 t.hour ++ ":" ++ Date.padded 2 t.minute ++ ":" ++ Date.padded 2 t.second

/-- The date and the time of day to the second. -/
def format (t : Time) : String :=
  t.date.format ++ " " ++ t.clock

/-- The date and the time of day to the millisecond, as a time stamp in universal time. -/
def stamp (t : Time) : String :=
  t.date.format ++ "T" ++ t.clock ++ "." ++ Date.padded 3 t.millisecond ++ "Z"

end Time

end Agenda.Calendar
