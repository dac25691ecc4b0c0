import Mathlib.Data.List.Forall2
import Mathlib.Data.String.Basic
import Agenda.Calendar.Time

/-!
# The order of time stamps

A time stamp has a fixed number of digits for every part of the time, the greatest part first.
For times in years of four digits, a time stamp is therefore not before another one as a text
when its time is not before the other time.
-/

namespace Agenda.Calendar

namespace Time

/-- Year, month, day, hour, minute, second and millisecond. -/
def parts (t : Time) : List Nat :=
  [t.date.year.toNat, t.date.month, t.date.day, t.hour, t.minute, t.second, t.millisecond]

/-- The time is that of the other one or before it. -/
def NotAfter (t u : Time) : Prop :=
  t.parts = u.parts ∨ List.Lex (· < ·) t.parts u.parts

/-- A clock can show the time, in a year of four digits.  The last second of a minute may be a
leap second. -/
structure IsReading (t : Time) : Prop where
  year : 0 ≤ t.date.year ∧ t.date.year ≤ 9999
  hour : t.hour < 24
  minute : t.minute < 60
  second : t.second ≤ 60
  millisecond : t.millisecond < 1000

end Time

/-! ### Numbers with leading zeros -/

/-- Of two texts with the same length, the one that is before the other stays so when both are
continued. -/
theorem append_lt_append_of_lt {s t : List Char} (h : s < t) (hlength : s.length = t.length)
    (u v : List Char) :
  s ++ u < t ++ v
  := by
  induction s generalizing t with
  | nil =>
    rw [List.eq_nil_of_length_eq_zero hlength.symm] at h
    apply absurd h (lt_irrefl _)
  | cons c s ih =>
    cases t with
    | nil => contradiction
    | cons d t =>
      rw [List.cons_append, List.cons_append]
      apply List.cons_lt_cons_iff.mpr
      obtain hc | ⟨hc, hs⟩ := List.cons_lt_cons_iff.mp h
      · left
        apply hc
      · right
        exact ⟨hc, ih hs (Nat.succ.inj hlength)⟩

theorem toList_padded (width n : Nat) :
  (Date.padded width n).toList
    = List.replicate (width - (Nat.toDigits 10 n).length) '0' ++ Nat.toDigits 10 n
  := by
  have hdigits : (toString n).toList = Nat.toDigits 10 n := String.toList_ofList
  rw [Date.padded, String.toList_append, String.toList_ofList, ← String.length_toList, hdigits]

/-- The last digit comes after the number without it. -/
theorem toList_padded_succ (width n : Nat) :
  (Date.padded (width + 2) n).toList
    = (Date.padded (width + 1) (n / 10)).toList ++ [(n % 10).digitChar]
  := by
  rw [toList_padded, toList_padded]
  by_cases hn : n < 10
  · rw [Nat.toDigits_of_lt_base hn, Nat.div_eq_of_lt hn, Nat.mod_eq_of_lt hn,
      Nat.toDigits_of_lt_base (by decide : 0 < 10)]
    simp only [List.length_singleton, Nat.add_sub_cancel, Nat.reduceSubDiff]
    rw [List.replicate_succ']
    rfl
  · have hzeros : ∀ k, width + 2 - (k + 1) = width + 1 - k := by
      omega
    rw [Nat.toDigits_of_base_le (by decide) (Nat.le_of_not_lt hn), List.length_append,
      List.length_singleton, hzeros, List.append_assoc]

/-- A number with one digit is that digit. -/
theorem toList_padded_one {n : Nat} (h : n < 10) :
  (Date.padded 1 n).toList = [n.digitChar]
  := by
  rw [toList_padded, Nat.toDigits_of_lt_base h]
  rfl

theorem length_padded {width n : Nat} (h : n < 10 ^ (width + 1)) :
  (Date.padded (width + 1) n).toList.length = width + 1
  := by
  induction width generalizing n with
  | zero => rw [toList_padded_one h, List.length_singleton]
  | succ width ih =>
    have hdiv : n / 10 < 10 ^ (width + 1) := by
      rw [Nat.pow_succ] at h
      apply Nat.div_lt_of_lt_mul
      rwa [Nat.mul_comm]
    rw [toList_padded_succ, List.length_append, ih hdiv, List.length_singleton]

theorem digitChar_lt {m n : Nat} (h : n < m) (hm : m < 10) :
  n.digitChar < m.digitChar
  := by
  have hall : ∀ m < 10, ∀ n < m, n.digitChar < m.digitChar := by
    decide
  apply hall m hm n h

/-- With the same number of digits, the smaller number comes first. -/
theorem padded_lt {width m n : Nat} (h : n < m) (hm : m < 10 ^ (width + 1)) :
  (Date.padded (width + 1) n).toList < (Date.padded (width + 1) m).toList
  := by
  induction width generalizing m n with
  | zero =>
    rw [toList_padded_one hm, toList_padded_one (lt_trans h hm)]
    apply List.cons_lt_cons_iff.mpr
    left
    apply digitChar_lt h hm
  | succ width ih =>
    rw [toList_padded_succ, toList_padded_succ]
    have hdiv : m / 10 < 10 ^ (width + 1) := by
      rw [Nat.pow_succ] at hm
      apply Nat.div_lt_of_lt_mul
      rwa [Nat.mul_comm]
    obtain hlt | heq := (Nat.div_le_div_right (c := 10) h.le).lt_or_eq
    · apply append_lt_append_of_lt (ih hlt hdiv)
      rw [length_padded hdiv, length_padded (lt_trans hlt hdiv)]
    · rw [heq]
      apply List.append_left_lt
      apply List.cons_lt_cons_iff.mpr
      left
      apply digitChar_lt
      · omega
      · omega

/-! ### Time stamps -/

theorem Date.day_le (d : Date) :
  d.day ≤ 31
  := by
  apply le_trans d.day_mem.2
  unfold daysIn
  repeat' split
  all_goals decide

/-- The numbers, each with its number of digits and a mark after it. -/
def writeParts : (form : List (Nat × Char)) → (numbers : List Nat) → List Char
  | (width, mark) :: form, n :: numbers =>
    (Date.padded width n).toList ++ mark :: writeParts form numbers
  | _, _ => []

/-- Every number has as many digits as the form gives to it, or fewer. -/
def Fits (form : List (Nat × Char)) (numbers : List Nat) : Prop :=
  List.Forall₂ (fun place n => 0 < place.1 ∧ n < 10 ^ place.1) form numbers

/-- Numbers that are written in the same form come in their own order. -/
theorem writeParts_lt {form : List (Nat × Char)} {ns ms : List Nat} (hn : Fits form ns)
    (hm : Fits form ms) (h : List.Lex (· < ·) ns ms) :
  writeParts form ns < writeParts form ms
  := by
  induction form generalizing ns ms with
  | nil =>
    cases hn
    cases hm
    contradiction
  | cons place form ih =>
    obtain ⟨width, mark⟩ := place
    cases hn with
    | @cons _ n _ ns hplace hns =>
      cases hm with
      | @cons _ m _ ms hplace' hms =>
        obtain ⟨width, rfl⟩ := Nat.exists_eq_succ_of_ne_zero hplace.1.ne'
        rw [writeParts, writeParts]
        cases h with
        | rel hlt =>
          apply append_lt_append_of_lt (padded_lt hlt hplace'.2)
          rw [length_padded hplace.2, length_padded hplace'.2]
        | cons hlater =>
          apply List.append_left_lt
          apply List.cons_lt_cons_iff.mpr
          right
          exact ⟨rfl, ih hns hms hlater⟩

/-- The digits and marks of a time stamp. -/
def stampForm : List (Nat × Char) :=
  [(4, '-'), (2, '-'), (2, 'T'), (2, ':'), (2, ':'), (2, '.'), (3, 'Z')]

namespace Time

variable {t u : Time}

theorem IsReading.toList_stamp (h : t.IsReading) :
  t.stamp.toList = writeParts stampForm t.parts
  := by
  have hyear : Date.formatYear t.date.year = Date.padded 4 t.date.year.toNat := by
    have hneg : ¬ t.date.year < 0 := not_lt.mpr h.year.1
    have hgreat : ¬ 9999 < t.date.year := not_lt.mpr h.year.2
    rw [Date.formatYear, if_neg hneg, if_neg hgreat]
    congr 1
    omega
  have hmarks : "-".toList = ['-'] ∧ "T".toList = ['T'] ∧ ":".toList = [':']
      ∧ ".".toList = ['.'] ∧ "Z".toList = ['Z'] := by
    decide
  simp only [stamp, clock, Date.format, hyear, String.toList_append, List.append_assoc, hmarks,
    parts, stampForm, writeParts, List.cons_append, List.nil_append]

theorem IsReading.fits (h : t.IsReading) :
  Fits stampForm t.parts
  := by
  have hday := t.date.day_le
  obtain ⟨hyear, hhour, hminute, hsecond, hmillisecond⟩ := h
  have hmonth := t.date.month_mem
  simp only [Fits, parts, stampForm, List.forall₂_cons, List.Forall₂.nil, Nat.reducePow, and_true]
  omega

/-- A time stamp is not before that of an earlier time. -/
theorem stamp_le (ht : t.IsReading) (hu : u.IsReading) (h : t.NotAfter u) :
  t.stamp ≤ u.stamp
  := by
  obtain heq | hlt := h
  · apply le_of_eq
    rw [← String.toList_inj, ht.toList_stamp, hu.toList_stamp, heq]
  · apply le_of_lt
    rw [String.lt_iff_toList_lt, ht.toList_stamp, hu.toList_stamp]
    apply writeParts_lt ht.fits hu.fits hlt

end Time

end Agenda.Calendar
