import Agenda.Number.Binary

/-!
# Percentages

A part is expressed as a whole percentage of a total.  The quotient and its hundredfold are
taken in binary precision, so a quotient that lies half-way between two percentages may
come out just below the half.  Percentages that do not fit into 32 bits are cut down.
-/

namespace Agenda.Insight

/-- The greatest percentage that is told apart. -/
def maxPercent : Nat := Nat.pow 2 32 - 1

/-- The part as a percentage of the total in binary precision. -/
def exactPercent (part total : Nat) : Rat :=
  Number.nearest53 (Number.nearest53 (Number.nearest53 part / Number.nearest53 total) * 100)

/-- The part as a whole percentage of the total; it is zero of nothing. -/
def percent (part total : Nat) : Nat :=
  if total = 0 then 0
  else min (Number.roundUp (exactPercent part total)).toNat maxPercent

end Agenda.Insight
