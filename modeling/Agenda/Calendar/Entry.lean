import Agenda.Calendar.Date
import Agenda.Text.Blank

/-!
# Dates as they are entered

A date is entered as year, month and day with hyphens between them.  Blanks may stand before
each number.  A year has at most four digits, or a sign and any number of digits; a month and
a day have at most two digits.
-/

namespace Agenda.Calendar

/-- The number at the front with at most the given number of digits, and the rest. -/
def number? (most : Nat) (s : List Char) : Option (Nat × List Char) :=
  let digits := (s.take most).takeWhile Char.isDigit
  if digits.isEmpty then none
  else some (digits.foldl (fun n c => n * 10 + (c.toNat - '0'.toNat)) 0, s.drop digits.length)

/-- The year at the front behind blanks, and the rest. -/
def year? (s : List Char) : Option (Int × List Char) :=
  match Text.dropBlanks s with
  | '-' :: rest => (number? rest.length rest).map fun (n, rest) => (-(n : Int), rest)
  | '+' :: rest => (number? rest.length rest).map fun (n, rest) => ((n : Int), rest)
  | rest => (number? 4 rest).map fun (n, rest) => ((n : Int), rest)

/-- The number of two digits at most at the front behind blanks, and the rest. -/
def twoDigits? (s : List Char) : Option (Nat × List Char) :=
  number? 2 (Text.dropBlanks s)

/-- The rest behind a hyphen. -/
def hyphen? : List Char → Option (List Char)
  | '-' :: rest => some rest
  | _ => none

/-- The date that is entered. -/
def Date.ofEntry? (s : String) : Option Date := do
  let (year, rest) ← year? s.toList
  let (month, rest) ← twoDigits? (← hyphen? rest)
  let (day, rest) ← twoDigits? (← hyphen? rest)
  guard rest.isEmpty
  Date.ofParts? year month day

end Agenda.Calendar
