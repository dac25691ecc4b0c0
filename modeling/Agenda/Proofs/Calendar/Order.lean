import Mathlib.Algebra.BigOperators.Intervals
import Mathlib.Algebra.Order.BigOperators.Group.Finset
import Agenda.Calendar.Date

/-!
# The order of the days

The days of the calendar are numbered without gaps.  Of two dates, the one with the earlier year is
before the other, in the same year the one with the earlier month, and in the same month the one
with the earlier day.  `number_lt_iff` says that their numbers are in the same order, and
`number_of_previous?` that the day before has the number before.  So `daysUntil` is the number of
days from one date to another, and a window of days has no gap.
-/

namespace Agenda.Calendar

/-! ### Days of years and months -/

/-- The number of days of a year. -/
def yearLength (year : Int) : Nat :=
  if isLeap year then 366 else 365

/-- The number of days from the beginning of the year 1 to that of the given one: a year has 365
days and every fourth one a leap day, except for those of every hundredth year that is not also a
four-hundredth. -/
def daysBeforeYear (year : Int) : Int :=
  365 * (year - 1) + (year - 1) / 4 - (year - 1) / 100 + (year - 1) / 400

/-- The number of days of the year before the month. -/
def daysBeforeMonth (year : Int) (month : Nat) : Nat :=
  (Finset.Ico 1 month).sum (daysIn year)

theorem daysBeforeYear_succ (year : Int) :
  daysBeforeYear (year + 1) = daysBeforeYear year + yearLength year
  := by
  simp only [daysBeforeYear, yearLength, isLeap, Bool.and_eq_true, Bool.or_eq_true, beq_iff_eq,
    bne_iff_ne, ne_eq]
  split <;> omega

/-- A year is over when a later one begins. -/
theorem daysBeforeYear_add_le {year later : Int} (h : year < later) :
  daysBeforeYear year + yearLength year ≤ daysBeforeYear later
  := by
  rw [← daysBeforeYear_succ]
  induction later, Int.add_one_le_of_lt h using Int.leInduction with
  | base => exact le_rfl
  | succ later hle ih =>
    have hnext := daysBeforeYear_succ later
    have hbefore := ih (by omega)
    omega

theorem daysBeforeMonth_succ (year : Int) {month : Nat} (h : 1 ≤ month) :
  daysBeforeMonth year (month + 1) = daysBeforeMonth year month + daysIn year month
  := Finset.sum_Ico_succ_top h _

/-- The months make up the year. -/
theorem daysBeforeMonth_thirteen (year : Int) :
  daysBeforeMonth year 13 = yearLength year
  := by
  have hmonths : Finset.Ico 1 13 = {1, 2, 3, 4, 5, 6, 7, 8, 9, 10, 11, 12} := by
    decide
  rw [daysBeforeMonth, hmonths, yearLength]
  cases hleap : isLeap year <;> simp [daysIn, hleap]

/-- A month is over when a later one begins. -/
theorem daysBeforeMonth_add_le (year : Int) {month later : Nat} (hmonth : 1 ≤ month)
    (h : month < later) :
  daysBeforeMonth year month + daysIn year month ≤ daysBeforeMonth year later
  := by
  rw [← daysBeforeMonth_succ year hmonth]
  apply Finset.sum_le_sum_of_subset
  apply Finset.Ico_subset_Ico_right h

namespace Date

/-! ### Numbers of days -/

/-- The number of the day, where the first day of the year 1 has the number 1. -/
def number (d : Date) : Int :=
  daysBeforeYear d.year + daysBeforeMonth d.year d.month + d.day

/-- The number of days from one date to another. -/
def daysUntil (d e : Date) : Int :=
  e.number - d.number

/-- The date is earlier than the other one. -/
def IsBefore (d e : Date) : Prop :=
  d.year < e.year ∨ d.year = e.year ∧ (d.month < e.month ∨ d.month = e.month ∧ d.day < e.day)

/-- The first day of the calendar. -/
def first : Date :=
  ⟨firstYear, 1, 1, by decide, by decide, by decide⟩

variable {d e : Date}

/-- A day is within its year. -/
theorem dayOfYear_mem (d : Date) :
  1 ≤ daysBeforeMonth d.year d.month + d.day
    ∧ daysBeforeMonth d.year d.month + d.day ≤ yearLength d.year
  := by
  have hmonth := d.month_mem
  have hday := d.day_mem
  have hlater := daysBeforeMonth_add_le d.year hmonth.1 (Nat.lt_succ_of_le hmonth.2)
  rw [daysBeforeMonth_thirteen] at hlater
  omega

theorem IsBefore.number_lt (h : d.IsBefore e) :
  d.number < e.number
  := by
  obtain hyear | ⟨hyear, hmonth | ⟨hmonth, hday⟩⟩ := h
  · have hyears := daysBeforeYear_add_le hyear
    have hd := d.dayOfYear_mem
    have he := e.dayOfYear_mem
    rw [number, number]
    omega
  · have hmonths := daysBeforeMonth_add_le d.year d.month_mem.1 hmonth
    have hd := d.day_mem
    have he := e.day_mem
    rw [number, number, ← hyear]
    omega
  · rw [number, number, ← hyear, ← hmonth]
    omega

theorem eq_of_parts (hyear : d.year = e.year) (hmonth : d.month = e.month) (hday : d.day = e.day) :
  d = e
  := by
  obtain ⟨year, month, day, _, _, _⟩ := d
  obtain rfl := hyear
  obtain rfl := hmonth
  obtain rfl := hday
  rfl

theorem eq_or_isBefore (d e : Date) :
  d = e ∨ d.IsBefore e ∨ e.IsBefore d
  := by
  by_cases heq : d.year = e.year ∧ d.month = e.month ∧ d.day = e.day
  · left
    apply eq_of_parts heq.1 heq.2.1 heq.2.2
  · right
    simp only [IsBefore]
    omega

/-- Dates are in the order of their numbers. -/
theorem number_lt_iff :
  d.number < e.number ↔ d.IsBefore e
  := by
  constructor
  · intro h
    obtain rfl | hbefore | hafter := eq_or_isBefore d e
    · apply absurd h (lt_irrefl _)
    · exact hbefore
    · apply absurd h hafter.number_lt.asymm
  · exact IsBefore.number_lt

/-- Every other day of the calendar is later than the first one. -/
theorem number_first_le (d : Date) :
  first.number ≤ d.number
  := by
  apply le_of_not_gt
  rw [number_lt_iff]
  have hyear := d.year_mem
  have hmonth := d.month_mem
  have hday := d.day_mem
  simp only [IsBefore, first]
  omega

/-! ### The day before -/

/-- The day before is in the same month, at the end of the month before or at the end of the year
before. -/
theorem previous?_cases (h : d.previous? = some e) :
  (e.year = d.year ∧ e.month = d.month ∧ e.day + 1 = d.day)
  ∨ (e.year = d.year ∧ e.month + 1 = d.month ∧ e.day = daysIn e.year e.month ∧ d.day = 1)
  ∨ (e.year + 1 = d.year ∧ e.month = 12 ∧ e.day = 31 ∧ d.month = 1 ∧ d.day = 1)
  := by
  have hmonth := d.month_mem
  have hday := d.day_mem
  rw [previous?] at h
  split at h
  · left
    obtain rfl := Option.some.inj h
    exact ⟨rfl, rfl, by simp only; omega⟩
  · split at h
    · right
      left
      obtain rfl := Option.some.inj h
      exact ⟨rfl, by simp only; omega, rfl, by omega⟩
    · split at h
      · right
        right
        obtain rfl := Option.some.inj h
        exact ⟨by simp only; omega, rfl, rfl, by omega, by omega⟩
      · cases h

/-- The day before has the number before. -/
theorem number_of_previous? (h : d.previous? = some e) :
  e.number + 1 = d.number
  := by
  rw [number, number]
  obtain ⟨hyear, hmonth, hday⟩ | ⟨hyear, hmonth, hlast, hday⟩ | ⟨hyear, hlast, hlast', hmonth, hday⟩ :=
    previous?_cases h
  · rw [hyear, hmonth]
    omega
  · have hmonths := daysBeforeMonth_succ e.year e.month_mem.1
    rw [← hyear, ← hmonth, hmonths, hday, hlast]
    omega
  · have hyears := daysBeforeYear_succ e.year
    have hmonths := daysBeforeMonth_succ e.year e.month_mem.1
    have hdecember : daysIn e.year 12 = 31 := rfl
    have hjanuary : daysBeforeMonth d.year 1 = 0 := rfl
    rw [hlast, daysBeforeMonth_thirteen, hdecember] at hmonths
    rw [← hyear, hyear, hlast, hlast', hmonth, hday, hjanuary, ← hyear, hyears]
    omega

/-- Only the first day of the calendar has no day before. -/
theorem eq_first_of_previous? (h : d.previous? = none) :
  d = first
  := by
  obtain heq | hbefore | hafter := eq_or_isBefore d first
  · exact heq
  · apply absurd hbefore.number_lt (not_lt.mpr (number_first_le d))
  · have hmonth := d.month_mem
    have hday := d.day_mem
    simp only [IsBefore, first] at hafter
    rw [previous?] at h
    split at h
    · cases h
    · split at h
      · cases h
      · split at h
        · cases h
        · omega

/-! ### Windows of days -/

/-- The later days are put behind the window. -/
theorem endingWith_eq (later : List Date) (d : Date) (count : Nat) :
  endingWith later d count = d.window count ++ later
  := by
  induction count generalizing later d with
  | zero => rfl
  | succ count ih =>
    rw [window, endingWith, endingWith]
    cases d.previous? with
    | none => rfl
    | some before =>
      simp only [ih (d :: later), ih [d], List.append_assoc, List.singleton_append]

/-- A window ends with its day.  What is before that is the window of the day before. -/
theorem window_succ (d : Date) (count : Nat) :
  d.window (count + 1) = d.previous?.elim [] (·.window count) ++ [d]
  := by
  rw [window, endingWith]
  cases d.previous? with
  | none => rfl
  | some before => apply endingWith_eq

theorem getLast?_window_succ (d : Date) (count : Nat) :
  (d.window (count + 1)).getLast? = some d
  := by
  rw [window_succ, List.getLast?_concat]

/-- A window has as many days as it is asked for, or as there are in the calendar. -/
theorem length_window (d : Date) (count : Nat) :
  ((d.window count).length : Int) = min (count : Int) (first.daysUntil d + 1)
  := by
  induction count generalizing d with
  | zero =>
    have hfirst := number_first_le d
    have hlength : (d.window 0).length = 0 := rfl
    rw [hlength, daysUntil]
    omega
  | succ count ih =>
    rw [window_succ, List.length_append, List.length_singleton]
    cases hprevious : d.previous? with
    | none =>
      rw [eq_first_of_previous? hprevious, Option.elim_none, List.length_nil, daysUntil]
      omega
    | some e =>
      have hbefore := ih e
      have hnumber := number_of_previous? hprevious
      rw [daysUntil] at hbefore ⊢
      rw [Option.elim_some]
      omega

/-- The days of a window follow one another. -/
theorem isChain_window (d : Date) (count : Nat) :
  (d.window count).IsChain fun a b => a.daysUntil b = 1
  := by
  induction count generalizing d with
  | zero => apply List.IsChain.nil
  | succ count ih =>
    rw [window_succ]
    cases hprevious : d.previous? with
    | none => apply List.IsChain.singleton
    | some e =>
      rw [Option.elim_some]
      apply List.isChain_append.mpr
      refine ⟨ih e, List.IsChain.singleton d, ?_⟩
      intro a ha b hb
      obtain rfl := Option.some.inj hb
      cases count with
      | zero => cases ha
      | succ count =>
        rw [getLast?_window_succ] at ha
        obtain rfl := Option.some.inj ha
        have hnumber := number_of_previous? hprevious
        rw [daysUntil]
        omega

instance : Trans IsBefore IsBefore IsBefore where
  trans h h' := number_lt_iff.mp (h.number_lt.trans h'.number_lt)

/-- The days of a window get later. -/
theorem pairwise_window (d : Date) (count : Nat) :
  (d.window count).Pairwise IsBefore
  := by
  apply List.IsChain.pairwise
  apply (isChain_window d count).imp
  intro a b hnext
  rw [daysUntil] at hnext
  apply number_lt_iff.mp
  omega

end Date

end Agenda.Calendar
