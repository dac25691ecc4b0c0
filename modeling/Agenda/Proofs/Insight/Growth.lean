import Agenda.Insight.Rate
import Agenda.Proofs.Number.Order

/-!
# Growing percentages

A greater part of a total is no smaller percentage of it, although part, total, quotient and
product are rounded to binary precision and different parts may become one number: every rounding
keeps the order, and so does every operation between them.  Nothing is zero percent and the whole
is a hundred, for a rounded number divided by itself is one, and so all percentages are between
these.  The numbers may have any size.
-/

namespace Agenda.Insight

variable {part part' total : Nat}

/-! ### Percentages before they are whole numbers -/

/-- A greater part is no smaller percentage before it is a whole number. -/
theorem exactPercent_le_exactPercent (h : part ≤ part') :
  exactPercent part total ≤ exactPercent part' total
  := by
  have hpart : (part : Rat) ≤ part' := by
    exact_mod_cast h
  have htotal := Number.nearest53_nonneg total
  rw [exactPercent, exactPercent]
  apply Number.nearest53_le_nearest53
  gcongr
  apply Number.nearest53_le_nearest53
  gcongr
  apply Number.nearest53_le_nearest53 hpart

theorem exactPercent_zero (total : Nat) :
  exactPercent 0 total = 0
  := by
  simp [exactPercent, Number.nearest53_zero]

/-- What is lost when the total is rounded cancels out. -/
theorem exactPercent_self (h : 0 < total) :
  exactPercent total total = 100
  := by
  have hpos : 0 < Number.nearest53 total := by
    apply Number.nearest53_pos
    exact_mod_cast h
  have hone := Number.nearest53_natCast (show 1 ≤ 2 ^ 53 by norm_num)
  have hhundred := Number.nearest53_natCast (show 100 ≤ 2 ^ 53 by norm_num)
  rw [Nat.cast_one] at hone
  rw [Nat.cast_ofNat] at hhundred
  rw [exactPercent, div_self hpos.ne', hone, one_mul, hhundred]

/-! ### Whole percentages -/

theorem percent_of_exactPercent_eq {n : Nat} (h : 0 < total) (hmax : n ≤ maxPercent)
    (heq : exactPercent part total = n) :
  percent part total = n
  := by
  rw [percent, if_neg h.ne', heq, Number.roundUp_natCast, Int.toNat_natCast, min_eq_left hmax]

theorem percent_le_percent (h : part ≤ part') :
  percent part total ≤ percent part' total
  := by
  rw [percent, percent]
  split
  · apply le_rfl
  · gcongr
    apply Int.toNat_le_toNat
    apply Number.roundUp_le_roundUp
    apply exactPercent_le_exactPercent h

theorem percent_zero (h : 0 < total) :
  percent 0 total = 0
  := percent_of_exactPercent_eq h (Nat.zero_le _) (exactPercent_zero total)

theorem percent_self (h : 0 < total) :
  percent total total = 100
  := percent_of_exactPercent_eq h (by decide) (exactPercent_self h)

/-- Percentages grow with the part from zero for nothing to a hundred for the whole. -/
theorem percent_grows (h : part ≤ part') (h' : part' ≤ total) (htotal : 0 < total) :
  0 ≤ percent part total ∧ percent part total ≤ percent part' total ∧ percent part' total ≤ 100
    ∧ percent 0 total = 0 ∧ percent total total = 100
  := by
  have hself := percent_self htotal
  refine ⟨Nat.zero_le _, percent_le_percent h, ?_, percent_zero htotal, hself⟩
  rw [← hself]
  apply percent_le_percent h'

/-- The greatest numbers of 64 bits, none of which has binary precision. -/
theorem percent_grows_greatTotal :
  2 ^ 64 - 3 ≤ 2 ^ 64 - 2 ∧ 2 ^ 64 - 2 ≤ 2 ^ 64 - 1 ∧ 0 < 2 ^ 64 - 1
    ∧ percent (2 ^ 64 - 3) (2 ^ 64 - 1) ≤ percent (2 ^ 64 - 2) (2 ^ 64 - 1)
    ∧ percent (2 ^ 64 - 2) (2 ^ 64 - 1) ≤ 100
  := by
  have hpart : 2 ^ 64 - 3 ≤ 2 ^ 64 - 2 := by
    decide
  have htotal : 2 ^ 64 - 2 ≤ 2 ^ 64 - 1 := by
    decide
  have hpos : 0 < 2 ^ 64 - 1 := by
    decide
  obtain ⟨-, hgrows, hle, -⟩ := percent_grows hpart htotal hpos
  exact ⟨hpart, htotal, hpos, hgrows, hle⟩

end Agenda.Insight
