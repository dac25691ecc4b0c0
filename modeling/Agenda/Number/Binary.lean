/-!
# Rounding to binary precision

A positive number has binary precision 53 when it is an integer of at most 53 bits times a
power of two.  `nearest53` rounds to the nearest such number, and to the one with the even
integer when two are equally near.  The range of the exponent is not limited.
-/

namespace Agenda.Number

/-- The nearest integer, and of two the even one. -/
def roundEven (q : Rat) : Int :=
  let down := q.floor
  let rest := q - down
  if rest < 1 / 2 then down
  else if 1 / 2 < rest then down + 1
  else if down % 2 = 0 then down
  else down + 1

/-- The greatest exponent whose power of two does not exceed the positive number. -/
def binaryExponent (q : Rat) : Int :=
  let estimate : Int := (q.num.toNat.log2 : Int) - (q.den.log2 : Int)
  if (2 : Rat) ^ estimate ≤ q then estimate else estimate - 1

/-- The nearest number of binary precision 53.  What is not positive becomes zero. -/
def nearest53 (q : Rat) : Rat :=
  if q ≤ 0 then 0
  else
    let unit := (2 : Rat) ^ (binaryExponent q - 52)
    roundEven (q / unit) * unit

/-- The nearest integer, and of two the greater one. -/
def roundUp (q : Rat) : Int :=
  (q + 1 / 2).floor

end Agenda.Number
