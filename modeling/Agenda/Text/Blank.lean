/-!
# Blank characters

`isBlank` holds of the characters with the white space property of Unicode.  It is the
only notion of white space in this library: trimming, the gaps of a query and the check
of task ids all use it.  The functions work on lists of characters; `trim` is the version
for strings.
-/

namespace Agenda.Text

/-- The characters with the white space property. -/
def isBlank (c : Char) : Bool :=
  let n := c.toNat
  (0x09 ≤ n && n ≤ 0x0D) || n == 0x20 || n == 0x85 || n == 0xA0 || n == 0x1680 ||
    (0x2000 ≤ n && n ≤ 0x200A) || n == 0x2028 || n == 0x2029 || n == 0x202F ||
    n == 0x205F || n == 0x3000

/-- The list without its leading blanks. -/
def dropBlanks (s : List Char) : List Char :=
  s.dropWhile isBlank

/-- The list without its leading and its trailing blanks. -/
def trimChars (s : List Char) : List Char :=
  (dropBlanks (dropBlanks s).reverse).reverse

/-- The string without its leading and its trailing blanks. -/
def trim (s : String) : String :=
  String.ofList (trimChars s.toList)

/-- The blanks at the front of the list are dropped; there has to be at least one. -/
def gap? : List Char → Option (List Char)
  | [] => none
  | c :: rest => if isBlank c then some (dropBlanks rest) else none

theorem length_dropBlanks_le (s : List Char) :
  (dropBlanks s).length ≤ s.length
  := by
  simpa [dropBlanks] using (List.dropWhile_sublist isBlank).length_le

/-- Crossing a gap shortens the list. -/
theorem length_lt_of_gap? {s rest : List Char} (h : gap? s = some rest) :
  rest.length < s.length
  := by
  cases s with
  | nil => simp [gap?] at h
  | cons c tail =>
    simp only [gap?] at h
    split at h
    · injection h with h
      subst h
      exact Nat.lt_succ_of_le (length_dropBlanks_le tail)
    · contradiction

end Agenda.Text
