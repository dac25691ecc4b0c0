import Mathlib.Tactic.Use
import Agenda.Proofs.Calendar.Order
import Agenda.Proofs.Calendar.Stamp

/-!
# Written dates

The digits of a number are followed by a character that is no digit or by nothing, so they can be
told from what follows.  A written date therefore tells where it ends: no other one begins with
it, whatever the signs of the years and however many digits they have.
-/

namespace Agenda.Calendar

/-! ### Digits -/

/-- The digits write the number, perhaps with zeros in front. -/
structure Writes (digits : List Char) (n : Nat) : Prop where
  ne_nil : digits ≠ []
  isDigit : ∀ c ∈ digits, c.isDigit = true
  value : Nat.ofDigitChars 10 digits 0 = n

/-- The text does not begin with a digit. -/
def IsPastDigits (text : List Char) : Prop :=
  ∀ c ∈ text.head?, c.isDigit = false

theorem isPastDigits_hyphen (rest : List Char) :
  IsPastDigits ('-' :: rest)
  := by
  intro c hc
  obtain rfl := Option.some.inj hc
  rfl

namespace Writes

variable {digits digits' : List Char} {m n : Nat}

/-- The same digits write the same number. -/
theorem eq_number (h : Writes digits m) (h' : Writes digits n) :
  m = n
  := h.value.symm.trans h'.value

/-- The digits are what is before the first character that is no digit. -/
theorem takeWhile_append (h : Writes digits n) {rest : List Char} (hrest : IsPastDigits rest) :
  (digits ++ rest).takeWhile Char.isDigit = digits
  := by
  rw [List.takeWhile_append_of_pos h.isDigit]
  cases rest with
  | nil => rw [List.takeWhile_nil, List.append_nil]
  | cons c rest =>
    have hc : c.isDigit = false := hrest c rfl
    rw [List.takeWhile_cons_of_neg (by simp [hc]), List.append_nil]

theorem append_inj (h : Writes digits m) (h' : Writes digits' n) {rest rest' : List Char}
    (hrest : IsPastDigits rest) (hrest' : IsPastDigits rest')
    (heq : digits ++ rest = digits' ++ rest') :
  m = n ∧ rest = rest'
  := by
  have hdigits : digits = digits' := by
    rw [← h.takeWhile_append hrest, heq, h'.takeWhile_append hrest']
  subst hdigits
  exact ⟨h.eq_number h', List.append_cancel_left heq⟩

/-- A number begins with a digit. -/
theorem exists_cons (h : Writes digits n) (rest : List Char) :
  ∃ c tail, digits ++ rest = c :: tail ∧ c.isDigit = true
  := by
  obtain ⟨c, digits, rfl⟩ := List.exists_cons_of_ne_nil h.ne_nil
  exact ⟨c, digits ++ rest, rfl, h.isDigit c List.mem_cons_self⟩

end Writes

theorem writes_padded (width n : Nat) :
  Writes (Date.padded width n).toList n
  := by
  rw [toList_padded]
  constructor
  · apply List.append_ne_nil_of_right_ne_nil _ Nat.toDigits_ne_nil
  · intro c hc
    obtain hc | hc := List.mem_append.mp hc
    · rw [List.eq_of_mem_replicate hc]
      rfl
    · apply Nat.isDigit_of_mem_toDigits (by decide) (by decide) hc
  · rw [Nat.ofDigitChars_append, Nat.ofDigitChars_replicate_zero, Nat.mul_zero,
      Nat.ofDigitChars_ten_toDigits]

/-! ### Dates -/

namespace Date

/-- The sign with which the year is written. -/
def yearSign (year : Int) : List Char :=
  if year < 0 then ['-'] else if 9999 < year then ['+'] else []

theorem toList_formatYear (year : Int) :
  (formatYear year).toList = yearSign year ++ (padded 4 year.natAbs).toList
  := by
  have hminus : "-".toList = ['-'] := rfl
  have hplus : "+".toList = ['+'] := rfl
  rw [formatYear, yearSign]
  split
  · rw [String.toList_append, hminus]
  · split
    · rw [String.toList_append, hplus]
    · rw [List.nil_append]

/-- What is written after the year. -/
def dayText (d : Date) : List Char :=
  '-' :: ((padded 2 d.month).toList ++ '-' :: (padded 2 d.day).toList)

theorem toList_format (d : Date) :
  d.format.toList = yearSign d.year ++ ((padded 4 d.year.natAbs).toList ++ d.dayText)
  := by
  have hhyphen : "-".toList = ['-'] := rfl
  simp only [format, dayText, String.toList_append, toList_formatYear, hhyphen, List.append_assoc,
    List.cons_append, List.nil_append]

/-- A sign is no digit. -/
theorem yearSign_cases (year : Int) :
  yearSign year = [] ∨ ∃ c, yearSign year = [c] ∧ c.isDigit = false
  := by
  rw [yearSign]
  split
  · right
    exact ⟨'-', rfl, rfl⟩
  · split
    · right
      exact ⟨'+', rfl, rfl⟩
    · left
      rfl

/-- A year begins with its sign, if it has one. -/
theorem yearSign_append_inj {year year' : Int} {digits digits' : List Char} {m n : Nat}
    (h : Writes digits m) (h' : Writes digits' n) {rest rest' : List Char}
    (heq : yearSign year ++ (digits ++ rest) = yearSign year' ++ (digits' ++ rest')) :
  yearSign year = yearSign year' ∧ digits ++ rest = digits' ++ rest'
  := by
  obtain ⟨c, tail, hc, hdigit⟩ := h.exists_cons rest
  obtain ⟨c', tail', hc', hdigit'⟩ := h'.exists_cons rest'
  rw [hc, hc'] at heq ⊢
  obtain hsign | ⟨s, hsign, hs⟩ := yearSign_cases year
  all_goals
    obtain hsign' | ⟨s', hsign', hs'⟩ := yearSign_cases year'
    all_goals
      rw [hsign, hsign'] at heq ⊢
  · exact ⟨rfl, heq⟩
  · obtain ⟨rfl, -⟩ := List.cons.inj heq
    rw [hs'] at hdigit
    contradiction
  · obtain ⟨rfl, -⟩ := List.cons.inj heq
    rw [hs] at hdigit'
    contradiction
  · obtain ⟨rfl, htail⟩ := List.cons.inj heq
    exact ⟨rfl, htail⟩

theorem yearSign_eq_minus_iff {year : Int} :
  yearSign year = ['-'] ↔ year < 0
  := by
  rw [yearSign]
  split
  · next hneg => simp [hneg]
  · next hnonneg => split <;> simp [hnonneg]

/-- The sign and the number make up the year. -/
theorem eq_of_yearSign {year year' : Int} (hsign : yearSign year = yearSign year')
    (hnumber : year.natAbs = year'.natAbs) :
  year = year'
  := by
  have hneg : year < 0 ↔ year' < 0 := by
    rw [← yearSign_eq_minus_iff, hsign, yearSign_eq_minus_iff]
  omega

/-- Month and day are written with two digits each. -/
theorem dayText_append_inj {d e : Date} {rest rest' : List Char}
    (h : d.dayText ++ rest = e.dayText ++ rest') :
  d.month = e.month ∧ d.day = e.day
  := by
  simp only [dayText, List.cons_append, List.append_assoc] at h
  obtain ⟨-, h⟩ := List.cons.inj h
  obtain ⟨hmonth, h⟩ := (writes_padded 2 d.month).append_inj (writes_padded 2 e.month)
    (isPastDigits_hyphen _) (isPastDigits_hyphen _) h
  obtain ⟨-, h⟩ := List.cons.inj h
  -- Nothing need follow the day, but a date has two digits for it.
  have hlength : ∀ f : Date, (padded 2 f.day).toList.length = 2 := by
    intro f
    have hday := f.day_le
    apply length_padded (by omega)
  obtain ⟨hday, -⟩ := List.append_inj h (by rw [hlength, hlength])
  have hsame := writes_padded 2 d.day
  rw [hday] at hsame
  exact ⟨hmonth, hsame.eq_number (writes_padded 2 e.day)⟩

/-- A text begins with one written date at most. -/
theorem eq_of_format_append {d e : Date} {rest rest' : List Char}
    (h : d.format.toList ++ rest = e.format.toList ++ rest') :
  d = e
  := by
  simp only [toList_format, List.append_assoc] at h
  obtain ⟨hsign, h⟩ := yearSign_append_inj (writes_padded 4 _) (writes_padded 4 _) h
  obtain ⟨hyear, h⟩ := (writes_padded 4 d.year.natAbs).append_inj (writes_padded 4 e.year.natAbs)
    (isPastDigits_hyphen _) (isPastDigits_hyphen _) h
  obtain ⟨hmonth, hday⟩ := dayText_append_inj h
  apply eq_of_parts (eq_of_yearSign hsign hyear) hmonth hday

end Date

end Agenda.Calendar
