import Agenda.Identifier

/-!
# Texts that are identifiers

An identifier consists of 26 digits, each of which is one byte.  None of them is a slash or a
null character, so an identifier may stand in the name of a file.
-/

namespace Agenda

namespace Identifier

theorem digit_mem_digits (value : Nat) :
  digit value ∈ digits
  := by
  rw [digit, List.getD_eq_getElem?_getD]
  cases hdigit : digits[value]? with
  | none => decide
  | some c => apply List.mem_of_getElem? hdigit

theorem mem_digits_of_mem_write {count n : Nat} {c : Char} (h : c ∈ write count n) :
  c ∈ digits
  := by
  induction count generalizing n with
  | zero => contradiction
  | succ count ih =>
    obtain hlater | hlast := List.mem_append.mp h
    · apply ih hlater
    · obtain rfl := List.mem_singleton.mp hlast
      apply digit_mem_digits

theorem length_write (count n : Nat) :
  (write count n).length = count
  := by
  induction count generalizing n with
  | zero => rfl
  | succ count ih => rw [write, List.length_append, ih, List.length_singleton]

theorem utf8ByteSize_write (count n : Nat) :
  (String.ofList (write count n)).utf8ByteSize = count
  := by
  have hdigits : ∀ c ∈ digits, c.utf8Size = 1 := by
    have hall : digits.all (·.utf8Size == 1) = true := by
      decide
    simpa using hall
  induction count generalizing n with
  | zero => rfl
  | succ count ih =>
    rw [write, String.ofList_append, String.utf8ByteSize_append, ih, ← String.singleton_eq_ofList,
      String.utf8ByteSize_singleton, hdigits _ (digit_mem_digits _)]

end Identifier

/-- The text is made as identifiers are. -/
def IsIdentifier (id : String) : Prop :=
  ∃ milliseconds random, id = Identifier.make milliseconds random

namespace IsIdentifier

variable {id : String}

theorem utf8ByteSize_eq (h : IsIdentifier id) :
  id.utf8ByteSize = 26
  := by
  obtain ⟨milliseconds, random, rfl⟩ := h
  apply Identifier.utf8ByteSize_write

theorem length_toList (h : IsIdentifier id) :
  id.toList.length = 26
  := by
  obtain ⟨milliseconds, random, rfl⟩ := h
  rw [Identifier.make, String.toList_ofList]
  apply Identifier.length_write

/-- What is no digit does not stand in an identifier. -/
theorem notMem (h : IsIdentifier id) {c : Char} (hc : c ∉ Identifier.digits) :
  c ∉ id.toList
  := by
  obtain ⟨milliseconds, random, rfl⟩ := h
  rw [Identifier.make, String.toList_ofList]
  intro hmem
  apply hc (Identifier.mem_digits_of_mem_write hmem)

end IsIdentifier

end Agenda
