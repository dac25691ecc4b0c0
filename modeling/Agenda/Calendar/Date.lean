/-!
# Dates

A date is a day of the proleptic Gregorian calendar.  The calendar begins with the first day
of the year -262143 and ends with the last day of the year 262142.

A year is written with four digits at least.  It has a sign if it is negative or has more
than four digits.
-/

namespace Agenda.Calendar

/-- The first year of the calendar. -/
def firstYear : Int := -262143

/-- The last year of the calendar. -/
def lastYear : Int := 262142

/-- The year has a leap day. -/
def isLeap (year : Int) : Bool :=
  year % 4 == 0 && (year % 100 != 0 || year % 400 == 0)

/-- The number of days of a month. -/
def daysIn (year : Int) : (month : Nat) → Nat
  | 2 => if isLeap year then 29 else 28
  | 4 | 6 | 9 | 11 => 30
  | _ => 31

theorem one_le_daysIn (year : Int) (month : Nat) :
  1 ≤ daysIn year month
  := by
  unfold daysIn
  repeat' split
  all_goals decide

/-- A day of the calendar. -/
structure Date where
  year : Int
  month : Nat
  day : Nat
  year_mem : firstYear ≤ year ∧ year ≤ lastYear
  month_mem : 1 ≤ month ∧ month ≤ 12
  day_mem : 1 ≤ day ∧ day ≤ daysIn year month
deriving DecidableEq

namespace Date

/-- The date with the given parts, if there is one. -/
def ofParts? (year : Int) (month day : Nat) : Option Date :=
  if hyear : firstYear ≤ year ∧ year ≤ lastYear then
    if hmonth : 1 ≤ month ∧ month ≤ 12 then
      if hday : 1 ≤ day ∧ day ≤ daysIn year month then
        some ⟨year, month, day, hyear, hmonth, hday⟩
      else none
    else none
  else none

/-- The day before; the first day of the calendar has none. -/
def previous? (d : Date) : Option Date :=
  if hday : 1 < d.day then
    some ⟨d.year, d.month, d.day - 1, d.year_mem, d.month_mem, by
      have := d.day_mem
      omega⟩
  else if hmonth : 1 < d.month then
    some ⟨d.year, d.month - 1, daysIn d.year (d.month - 1), d.year_mem, by
      have := d.month_mem
      omega, one_le_daysIn _ _, Nat.le_refl _⟩
  else if hyear : firstYear < d.year then
    some ⟨d.year - 1, 12, 31, by
      have := d.year_mem
      omega, by decide, by decide, by simp [daysIn]⟩
  else none

/-- The dates from the given one back to at most `count` days in all, followed by the dates
in `later`. -/
def endingWith (later : List Date) (d : Date) : (count : Nat) → List Date
  | 0 => later
  | count + 1 =>
    match d.previous? with
    | some before => endingWith (d :: later) before count
    | none => d :: later

/-- The last `count` days up to the given one, the earliest first.  There are fewer where the
calendar begins. -/
def window (d : Date) (count : Nat) : List Date :=
  endingWith [] d count

/-! ### Written dates -/

/-- The number with leading zeros up to the given number of digits. -/
def padded (width n : Nat) : String :=
  let digits := toString n
  String.ofList (List.replicate (width - digits.length) '0') ++ digits

/-- The year with its sign, if it needs one, and at least four digits. -/
def formatYear (year : Int) : String :=
  if year < 0 then "-" ++ padded 4 year.natAbs
  else if 9999 < year then "+" ++ padded 4 year.natAbs
  else padded 4 year.natAbs

/-- Year, month and day with hyphens between them. -/
def format (d : Date) : String :=
  formatYear d.year ++ "-" ++ padded 2 d.month ++ "-" ++ padded 2 d.day

end Date

end Agenda.Calendar
