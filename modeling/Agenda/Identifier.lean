/-!
# Identifiers

An identifier is a number of 128 bits, written with 26 digits to the base 32.  Its upper 48
bits count the milliseconds since the beginning of the year 1970 and the others are random,
so identifiers sort by the time at which they were made.
-/

namespace Agenda.Identifier

/-- The digits: the decimal ones and the small letters without i, l, o and u. -/
def digits : List Char :=
  "0123456789abcdefghjkmnpqrstvwxyz".toList

/-- The digit of a value below 32. -/
def digit (value : Nat) : Char :=
  digits.getD value '0'

/-- The lowest digits of the number, as many as `count`, the highest of them first. -/
def write : (count : Nat) → (n : Nat) → List Char
  | 0, _ => []
  | count + 1, n => write count (n / 32) ++ [digit (n % 32)]

/-- The identifier made at the given time with the given random part. -/
def make (milliseconds random : Nat) : String :=
  String.ofList (write 26 (milliseconds % Nat.pow 2 48 * Nat.pow 2 80 + random % Nat.pow 2 80))

end Agenda.Identifier
