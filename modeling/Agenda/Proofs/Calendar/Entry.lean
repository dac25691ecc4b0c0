import Agenda.Calendar.Entry
import Agenda.Proofs.Calendar.Written
import Agenda.Proofs.Text.Front

/-!
# Entered dates

Which texts are entries of dates.  `IsEntry` allows blanks before the numbers, fewer digits than are
written and a sign before the year; `ofEntry?_eq_some_iff` says that these are the texts that are
read.  `IsCanonical` asks for four digits, two and two with hyphens between them.  An entry is of this
form just when it consists of ten digits and hyphens and does not begin with a hyphen.
-/

namespace Agenda.Calendar

open Text (isBlank IsFlush dropBlanks)

variable {most n : Nat} {text digits gap rest s : List Char} {year : Int} {d : Date}

/-! ### Numbers -/

theorem isBlank_of_isDigit {c : Char} (h : c.isDigit = true) :
  isBlank c = false
  := by
  have hcode : 48 ≤ c.toNat ∧ c.toNat ≤ 57 := Char.isDigit_iff_toNat.mp h
  rw [← Bool.not_eq_true]
  simp only [isBlank, Bool.or_eq_true, Bool.and_eq_true, decide_eq_true_eq, beq_iff_eq]
  omega

theorem isFlush_of_isDigit (h : ∀ c ∈ digits, c.isDigit = true) :
  IsFlush digits
  := fun c hc => isBlank_of_isDigit (h c (List.mem_of_mem_head? hc))

/-- A number is not preceded by the blanks that are dropped. -/
theorem Writes.isFlush_append (h : Writes digits n) (rest : List Char) :
  IsFlush (digits ++ rest)
  := Text.isFlush_append h.ne_nil (isFlush_of_isDigit h.isDigit) rest

/-- A number is read as its digits. -/
theorem exists_of_number? (h : number? most s = some (n, rest)) :
  ∃ digits, Writes digits n ∧ digits.length ≤ most ∧ s = digits ++ rest
  := by
  simp only [number?] at h
  split at h
  · cases h
  · next hne =>
    obtain ⟨rfl, rfl⟩ := Prod.mk.inj (Option.some.inj h)
    refine ⟨(s.take most).takeWhile Char.isDigit, ⟨?_, ?_, ?_⟩, ?_, ?_⟩
    · simpa using hne
    · intro c
      apply List.mem_takeWhile_imp
    · rw [Nat.ofDigitChars_eq_foldl]
      simp only [Nat.mul_comm]
    · apply (List.takeWhile_prefix _).length_le.trans (List.length_take_le _ _)
    · have hprefix := (List.takeWhile_prefix Char.isDigit).trans (List.take_prefix most s)
      rw [List.prefix_iff_eq_append.mp hprefix]

/-- Digits that are not too many are read as their number. -/
theorem number?_append (h : Writes digits n) (hlength : digits.length ≤ most)
    (hrest : IsPastDigits rest) :
  number? most (digits ++ rest) = some (n, rest)
  := by
  have htake : IsPastDigits (rest.take (most - digits.length)) := by
    intro c hc
    rw [List.head?_take] at hc
    split at hc
    · cases hc
    · apply hrest c hc
  have hdigits : ((digits ++ rest).take most).takeWhile Char.isDigit = digits := by
    rw [List.take_append, List.take_of_length_le hlength, h.takeWhile_append htake]
  have hvalue := h.value
  rw [Nat.ofDigitChars_eq_foldl] at hvalue
  simp only [Nat.mul_comm] at hvalue
  simp only [number?, hdigits, List.drop_left, hvalue]
  rw [if_neg (by simpa using h.ne_nil)]

/-- The text consists of blanks and of digits, `most` of them at most, that write the number. -/
inductive IsNumber (most n : Nat) : List Char → Prop
  | intro {gap digits : List Char} (hgap : ∀ c ∈ gap, isBlank c = true) (h : Writes digits n)
    (hlength : digits.length ≤ most) : IsNumber most n (gap ++ digits)

theorem exists_append_dropBlanks (s : List Char) :
  ∃ gap, (∀ c ∈ gap, isBlank c = true) ∧ s = gap ++ dropBlanks s
  := by
  refine ⟨s.takeWhile isBlank, fun c => List.mem_takeWhile_imp, ?_⟩
  exact List.takeWhile_append_dropWhile.symm

theorem exists_of_twoDigits? (h : twoDigits? s = some (n, rest)) :
  ∃ text, IsNumber 2 n text ∧ s = text ++ rest
  := by
  obtain ⟨gap, hgap, hs⟩ := exists_append_dropBlanks s
  obtain ⟨digits, hdigits, hlength, hrest⟩ := exists_of_number? h
  refine ⟨gap ++ digits, .intro hgap hdigits hlength, ?_⟩
  rw [hs, hrest, List.append_assoc]

theorem IsNumber.twoDigits?_append (h : IsNumber 2 n text) (hrest : IsPastDigits rest) :
  twoDigits? (text ++ rest) = some (n, rest)
  := by
  obtain ⟨hgap, hdigits, hlength⟩ := h
  rw [twoDigits?, List.append_assoc, Text.dropBlanks_append hgap (hdigits.isFlush_append rest),
    number?_append hdigits hlength hrest]

/-! ### Years -/

/-- The text is a year after blanks: four digits at most, or a sign and any number of digits. -/
inductive IsYear : Int → List Char → Prop
  | plain {n : Nat} {text : List Char} (h : IsNumber 4 n text) : IsYear n text
  | plus {n : Nat} {gap digits : List Char} (hgap : ∀ c ∈ gap, isBlank c = true)
    (h : Writes digits n) : IsYear n (gap ++ '+' :: digits)
  | minus {n : Nat} {gap digits : List Char} (hgap : ∀ c ∈ gap, isBlank c = true)
    (h : Writes digits n) : IsYear (-n) (gap ++ '-' :: digits)

theorem exists_of_year? (h : year? s = some (year, rest)) :
  ∃ text, IsYear year text ∧ s = text ++ rest
  := by
  obtain ⟨gap, hgap, hs⟩ := exists_append_dropBlanks s
  rw [year?] at h
  split at h
  · next after hafter =>
    obtain ⟨⟨n, rest'⟩, hn, heq⟩ := Option.map_eq_some_iff.mp h
    cases heq
    obtain ⟨digits, hdigits, -, hrest⟩ := exists_of_number? hn
    refine ⟨_, .minus hgap hdigits, ?_⟩
    rw [hs, hafter, hrest, List.append_assoc, List.cons_append]
  · next after hafter =>
    obtain ⟨⟨n, rest'⟩, hn, heq⟩ := Option.map_eq_some_iff.mp h
    cases heq
    obtain ⟨digits, hdigits, -, hrest⟩ := exists_of_number? hn
    refine ⟨_, .plus hgap hdigits, ?_⟩
    rw [hs, hafter, hrest, List.append_assoc, List.cons_append]
  · obtain ⟨⟨n, rest'⟩, hn, heq⟩ := Option.map_eq_some_iff.mp h
    cases heq
    obtain ⟨digits, hdigits, hlength, hrest⟩ := exists_of_number? hn
    refine ⟨_, .plain (.intro hgap hdigits hlength), ?_⟩
    rw [List.append_assoc, ← hrest, ← hs]

theorem IsYear.year?_append (h : IsYear year text) (hrest : IsPastDigits rest) :
  year? (text ++ rest) = some (year, rest)
  := by
  have hlength : ∀ digits : List Char, digits.length ≤ (digits ++ rest).length := by
    intro digits
    rw [List.length_append]
    apply Nat.le_add_right
  cases h with
  | @plain n _ h =>
    obtain ⟨hgap, hdigits, hfour⟩ := h
    obtain ⟨c, tail, hc, hdigit⟩ := hdigits.exists_cons rest
    rw [year?, List.append_assoc, Text.dropBlanks_append hgap (hdigits.isFlush_append rest), hc]
    split
    · next heq =>
      obtain ⟨rfl, -⟩ := List.cons.inj heq
      cases hdigit
    · next heq =>
      obtain ⟨rfl, -⟩ := List.cons.inj heq
      cases hdigit
    · rw [← hc, number?_append hdigits hfour hrest]
      rfl
  | @plus n gap digits hgap h =>
    have hflush : IsFlush ('+' :: (digits ++ rest)) := Text.isFlush_cons.mpr rfl
    rw [year?, List.append_assoc, List.cons_append, Text.dropBlanks_append hgap hflush]
    simp only [number?_append h (hlength digits) hrest, Option.map_some]
  | @minus n gap digits hgap h =>
    have hflush : IsFlush ('-' :: (digits ++ rest)) := Text.isFlush_cons.mpr rfl
    rw [year?, List.append_assoc, List.cons_append, Text.dropBlanks_append hgap hflush]
    simp only [number?_append h (hlength digits) hrest, Option.map_some]

/-! ### Dates -/

/-- The text is an entry of the date: year, month and day with hyphens between them. -/
inductive IsEntry (d : Date) : List Char → Prop
  | intro {year month day : List Char} (hyear : IsYear d.year year) (hmonth : IsNumber 2 d.month month)
    (hday : IsNumber 2 d.day day) : IsEntry d (year ++ '-' :: (month ++ '-' :: day))

theorem Date.ofParts?_eq_some_iff {year : Int} {month day : Nat} :
  Date.ofParts? year month day = some d ↔ d.year = year ∧ d.month = month ∧ d.day = day
  := by
  constructor
  · intro h
    rw [Date.ofParts?] at h
    repeat' split at h
    · obtain rfl := Option.some.inj h
      exact ⟨rfl, rfl, rfl⟩
    all_goals cases h
  · rintro ⟨rfl, rfl, rfl⟩
    rw [Date.ofParts?, dif_pos d.year_mem, dif_pos d.month_mem, dif_pos d.day_mem]

theorem hyphen?_eq_some_iff :
  hyphen? s = some rest ↔ s = '-' :: rest
  := by
  constructor
  · intro h
    unfold hyphen? at h
    split at h
    · rw [Option.some.inj h]
    · cases h
  · rintro rfl
    rfl

/-- Exactly the entries of dates are read. -/
theorem ofEntry?_eq_some_iff {s : String} :
  Date.ofEntry? s = some d ↔ IsEntry d s.toList
  := by
  constructor
  · intro h
    simp only [Date.ofEntry?, Option.bind_eq_bind, Option.bind_eq_some_iff, hyphen?_eq_some_iff,
      Prod.exists, Date.ofParts?_eq_some_iff] at h
    obtain ⟨_, _, hreadYear, _, rfl, _, _, hreadMonth, _, rfl, _, rest, hreadDay, _, hend, rfl, rfl,
      rfl⟩ := h
    obtain rfl : rest = [] := by
      rw [guard] at hend
      split at hend
      · next hempty => exact List.isEmpty_iff.mp hempty
      · cases hend
    obtain ⟨year, hyear, heq⟩ := exists_of_year? hreadYear
    obtain ⟨month, hmonth, rfl⟩ := exists_of_twoDigits? hreadMonth
    obtain ⟨day, hday, rfl⟩ := exists_of_twoDigits? hreadDay
    rw [heq, List.append_nil]
    exact .intro hyear hmonth hday
  · intro h
    generalize htext : s.toList = text at h
    obtain ⟨hyear, hmonth, hday⟩ := h
    have hend : twoDigits? (_ ++ []) = some (d.day, []) :=
      hday.twoDigits?_append fun c hc => by cases hc
    rw [List.append_nil] at hend
    simp only [Date.ofEntry?, htext, hyear.year?_append (isPastDigits_hyphen _), hyphen?,
      hmonth.twoDigits?_append (isPastDigits_hyphen _), hend, Option.bind_eq_bind, Option.bind_some,
      List.isEmpty_nil, guard, if_true]
    exact Date.ofParts?_eq_some_iff.mpr ⟨rfl, rfl, rfl⟩

/-! ### The canonical form -/

/-- The text is the date in the canonical form: four digits for the year, two for the month and two
for the day, with hyphens between them. -/
inductive IsCanonical (d : Date) : List Char → Prop
  | intro {n : Nat} {year month day : List Char} (hn : d.year = n) (hyear : Writes year n)
    (hmonth : Writes month d.month) (hday : Writes day d.day) (hfour : year.length = 4)
    (htwo : month.length = 2) (htwo' : day.length = 2) :
    IsCanonical d (year ++ '-' :: (month ++ '-' :: day))

/-- There are ten digits and hyphens and no hyphen in front. -/
structure IsPlain (text : List Char) : Prop where
  length : text.length = 10
  isDigit : ∀ c ∈ text, c.isDigit = true ∨ c = '-'
  head : text.head? ≠ some '-'

/-- Digits are a number without blanks. -/
theorem Writes.isNumber (h : Writes digits n) (hlength : digits.length ≤ most) :
  IsNumber most n digits
  := @IsNumber.intro most n [] digits (by simp) h hlength

theorem IsCanonical.isEntry (h : IsCanonical d text) :
  IsEntry d text
  := by
  obtain ⟨hn, hyear, hmonth, hday, hfour, htwo, htwo'⟩ := h
  apply IsEntry.intro
  · rw [hn]
    apply IsYear.plain (hyear.isNumber hfour.le)
  · apply hmonth.isNumber htwo.le
  · apply hday.isNumber htwo'.le

theorem IsCanonical.isPlain (h : IsCanonical d text) :
  IsPlain text
  := by
  obtain ⟨-, hyear, hmonth, hday, hfour, htwo, htwo'⟩ := h
  constructor
  · simp [hfour, htwo, htwo']
  · intro c hc
    simp only [List.mem_append, List.mem_cons] at hc
    obtain hc | rfl | hc | rfl | hc := hc
    · exact .inl (hyear.isDigit c hc)
    · exact .inr rfl
    · exact .inl (hmonth.isDigit c hc)
    · exact .inr rfl
    · exact .inl (hday.isDigit c hc)
  · obtain ⟨c, tail, hc, hdigit⟩ := hyear.exists_cons ('-' :: _)
    rw [hc, List.head?_cons]
    rintro heq
    obtain rfl := Option.some.inj heq
    cases hdigit

/-- There are no blanks among digits and hyphens. -/
theorem eq_nil_of_isBlank (hgap : ∀ c ∈ gap, isBlank c = true)
    (hplain : ∀ c ∈ gap ++ rest, c.isDigit = true ∨ c = '-') :
  gap = []
  := by
  cases gap with
  | nil => rfl
  | cons c gap =>
    have hblank := hgap c List.mem_cons_self
    obtain hdigit | rfl := hplain c List.mem_cons_self
    · rw [isBlank_of_isDigit hdigit] at hblank
      cases hblank
    · cases hblank

theorem IsNumber.writes (h : IsNumber most n text)
    (hplain : ∀ c ∈ text, c.isDigit = true ∨ c = '-') :
  Writes text n ∧ text.length ≤ most
  := by
  obtain ⟨hgap, hdigits, hlength⟩ := h
  obtain rfl := eq_nil_of_isBlank hgap hplain
  exact ⟨hdigits, hlength⟩

/-- A year among digits and hyphens has no sign if it does not begin with a hyphen. -/
theorem IsYear.writes (h : IsYear year text) (hplain : ∀ c ∈ text, c.isDigit = true ∨ c = '-')
    (hhead : text.head? ≠ some '-') :
  ∃ n : Nat, year = n ∧ Writes text n ∧ text.length ≤ 4
  := by
  cases h with
  | plain h => exact ⟨_, rfl, h.writes hplain⟩
  | plus hgap h =>
    apply absurd (hplain '+' (by simp))
    decide
  | minus hgap h =>
    obtain rfl := eq_nil_of_isBlank hgap hplain
    exact absurd rfl hhead

/-- An entry of ten digits and hyphens is in the canonical form. -/
theorem IsEntry.isCanonical (h : IsEntry d text) (hplain : IsPlain text) :
  IsCanonical d text
  := by
  obtain ⟨hyear, hmonth, hday⟩ := h
  next year month day =>
    have hchars := hplain.isDigit
    simp only [List.forall_mem_append, List.forall_mem_cons] at hchars
    obtain ⟨hyearChars, -, hmonthChars, -, hdayChars⟩ := hchars
    have hhead : year.head? ≠ some '-' := by
      intro heq
      apply hplain.head
      rw [List.head?_append, heq]
      rfl
    obtain ⟨n, hn, hyear, hfour⟩ := hyear.writes hyearChars hhead
    obtain ⟨hmonth, htwo⟩ := hmonth.writes hmonthChars
    obtain ⟨hday, htwo'⟩ := hday.writes hdayChars
    have hlength := hplain.length
    simp only [List.length_append, List.length_cons] at hlength
    apply IsCanonical.intro hn hyear hmonth hday <;> omega

end Agenda.Calendar
