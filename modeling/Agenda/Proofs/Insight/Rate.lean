import Agenda.Insight.Summary
import Agenda.Proofs.Number.Binary
import Agenda.Store.Change

/-!
# Rounded percentages

A percentage is computed with four roundings to binary precision, so before it becomes a whole
number it differs from the exact percentage by at most `1 / 2 ^ 44`.  The whole number is therefore
the exact percentage rounded half up, unless this lies as near to a half.  Of the exact halves,
those in `lowHalves` are rounded down and all others up.  Totals below `2 ^ 43` have no percentages
that are near to a half without being one.
-/

namespace Agenda.Insight

variable {part total : Nat}

/-- The percentage rounded to the nearest whole number, and of two to the greater one. -/
def halfUp (part total : Nat) : Nat :=
  (200 * part + total) / (2 * total)

/-- The part is half-way between `k` and `k + 1` percent of the total. -/
def IsHalf (k part total : Nat) : Prop :=
  200 * part = (2 * k + 1) * total

instance : Decidable (IsHalf k part total) :=
  inferInstanceAs (Decidable (_ = _))

/-- The percentages whose halves come out below the half. -/
def lowHalves : List Nat :=
  [14, 28, 56, 57]

/-! ### The percentage before it is a whole number -/

theorem percentage_mem (h : part ≤ total) (htotal : 0 < total) :
  0 ≤ 100 * (part : Rat) / total ∧ 100 * (part : Rat) / total ≤ 100
  := by
  have hpart : (part : Rat) ≤ total := by
    exact_mod_cast h
  have htotal : (0 : Rat) < total := by
    exact_mod_cast htotal
  constructor
  · positivity
  · rw [div_le_iff₀ htotal]
    linarith

/-- Four roundings are made: of the part, of the total, of the quotient and of the product. -/
theorem near_exactPercent (htotal : 0 < total) :
  Number.Near 4 (exactPercent part total) (100 * part / total)
  := by
  have hpart : (0 : Rat) ≤ part := by
    positivity
  have htotal : (0 : Rat) < total := by
    exact_mod_cast htotal
  have hexact : 100 * (part : Rat) / total = part / total * 100 := by
    ring
  have hquotient : Number.Near 2 (Number.nearest53 part / Number.nearest53 total) (part / total) :=
    (Number.near_nearest53 hpart).div (Number.near_nearest53 htotal.le) hpart htotal
  have hrounded := (Number.near_nearest53 (hquotient.nonneg (by positivity))).trans hquotient
  have hproduct := hrounded.mul_right (c := 100) (by norm_num)
  rw [hexact]
  apply (Number.near_nearest53 (hproduct.nonneg (by positivity))).trans hproduct

theorem abs_exactPercent_sub_le (h : part ≤ total) (htotal : 0 < total) :
  |exactPercent part total - 100 * part / total| ≤ 1 / 2 ^ 44
  := by
  obtain ⟨hnonneg, hle⟩ := percentage_mem h htotal
  calc |exactPercent part total - 100 * part / total|
    _ ≤ 100 * part / total * (Number.slack ^ 4 - 1) :=
      (near_exactPercent htotal).abs_sub_le hnonneg
    _ ≤ 100 * (Number.slack ^ 4 - 1) := by
      gcongr
      norm_num [Number.slack]
    _ ≤ 1 / 2 ^ 44 := by
      norm_num [Number.slack]

/-- Nothing is cut off when the percentage becomes a whole number. -/
theorem percent_eq_roundUp (h : part ≤ total) (htotal : 0 < total) :
  (percent part total : Int) = Number.roundUp (exactPercent part total)
  := by
  obtain ⟨hnonneg, hle⟩ := percentage_mem h htotal
  obtain ⟨hge, hle'⟩ := abs_le.mp (abs_exactPercent_sub_le h htotal)
  obtain ⟨hge', hle''⟩ := abs_le.mp (Number.abs_roundUp_sub_le (exactPercent part total))
  have hlower : (-1 : Rat) < Number.roundUp (exactPercent part total) := by
    linarith
  have hupper : (Number.roundUp (exactPercent part total) : Rat) < 102 := by
    linarith
  have hlower : -1 < Number.roundUp (exactPercent part total) := by
    exact_mod_cast hlower
  have hupper : Number.roundUp (exactPercent part total) < 102 := by
    exact_mod_cast hupper
  have hmax : 102 ≤ maxPercent := by
    decide
  rw [percent, if_neg htotal.ne']
  omega

theorem halfUp_eq_roundUp (htotal : 0 < total) :
  (halfUp part total : Int) = Number.roundUp (100 * part / total)
  := by
  have h := Number.roundUp_natCast_div (m := 100 * part) htotal
  rw [Nat.cast_mul, Nat.cast_ofNat, ← Nat.mul_assoc] at h
  exact h.symm

/-! ### Percentages that are half-way -/

/-- The part and the total are not rounded unless they are too great. -/
theorem exactPercent_of_le (h : part ≤ total) (hmax : total ≤ 2 ^ 53) :
  exactPercent part total = Number.nearest53 (Number.nearest53 (part / total) * 100)
  := by
  rw [exactPercent, Number.nearest53_natCast (h.trans hmax), Number.nearest53_natCast hmax]

/-- The halves of hundred, which stand for those of other totals. -/
theorem percent_half :
  ∀ k < 100, percent (2 * k + 1) 200 = if k ∈ lowHalves then k else k + 1
  := by
  decide +kernel

theorem IsHalf.lt {k : Nat} (hk : IsHalf k part total) (h : part ≤ total) (htotal : 0 < total) :
  k < 100
  := by
  have hle : (2 * k + 1) * total ≤ 200 * total := by
    rw [← hk]
    omega
  have := Nat.le_of_mul_le_mul_right hle htotal
  omega

theorem IsHalf.halfUp_eq {k : Nat} (hk : IsHalf k part total) (htotal : 0 < total) :
  halfUp part total = k + 1
  := by
  rw [halfUp, hk, ← Nat.succ_mul, Nat.mul_div_mul_right _ _ htotal]
  omega

theorem IsHalf.eq {k k' : Nat} (hk : IsHalf k part total) (hk' : IsHalf k' part total)
    (htotal : 0 < total) :
  k = k'
  := by
  have := hk.halfUp_eq htotal
  have := hk'.halfUp_eq htotal
  omega

theorem percent_of_isHalf {k : Nat} (hk : IsHalf k part total) (h : part ≤ total)
    (htotal : 0 < total) (hmax : total ≤ 2 ^ 53) :
  percent part total = if k ∈ lowHalves then k else k + 1
  := by
  have hlt := hk.lt h htotal
  have hquotient : (part : Rat) / total = (2 * k + 1 : Nat) / (200 : Nat) := by
    rw [div_eq_div_iff (by positivity) (by positivity), mul_comm]
    exact_mod_cast hk
  have hhundred : percent part total = percent (2 * k + 1) 200 := by
    rw [percent, percent, if_neg htotal.ne', if_neg (by decide), exactPercent_of_le h hmax,
      exactPercent_of_le (by omega) (by norm_num), hquotient]
  rw [hhundred]
  apply percent_half k hlt

/-! ### Percentages that are not half-way -/

theorem percent_of_far (h : part ≤ total) (htotal : 0 < total)
    (hfar : ∀ k : Int, 1 / 2 ^ 44 < |100 * (part : Rat) / total - (k + 1 / 2)|) :
  percent part total = halfUp part total
  := by
  have hround := Number.roundUp_eq (abs_exactPercent_sub_le h htotal) hfar
  rw [← percent_eq_roundUp h htotal, ← halfUp_eq_roundUp htotal] at hround
  exact_mod_cast hround

/-- With a small total a percentage that is no half is far from every half. -/
theorem far_of_not_isHalf (htotal : 0 < total) (hmax : total < 2 ^ 43)
    (hhalf : ∀ k, ¬ IsHalf k part total) (k : Int) :
  1 / 2 ^ 44 < |100 * (part : Rat) / total - (k + 1 / 2)|
  := by
  have hne : 200 * (part : Int) - (2 * k + 1) * total ≠ 0 := by
    intro heq
    have hk : 0 ≤ 2 * k + 1 := by
      apply nonneg_of_mul_nonneg_left (b := (total : Int))
      · omega
      · omega
    obtain ⟨k, rfl⟩ := Int.eq_ofNat_of_zero_le (by omega : 0 ≤ k)
    apply hhalf k
    rw [IsHalf]
    zify
    linarith
  have hnumerator : 1 ≤ |(200 * part - (2 * k + 1) * total : Rat)| := by
    exact_mod_cast Int.one_le_abs hne
  have htotal : (0 : Rat) < total := by
    exact_mod_cast htotal
  have hmax : (total : Rat) < 2 ^ 43 := by
    exact_mod_cast hmax
  have hdistance : 100 * (part : Rat) / total - (k + 1 / 2)
      = (200 * part - (2 * k + 1) * total) / (2 * total) := by
    field_simp
    ring
  rw [hdistance, abs_div, abs_of_pos (by positivity : 0 < 2 * (total : Rat)),
    lt_div_iff₀ (by positivity)]
  apply lt_of_lt_of_le _ hnumerator
  linarith

/-! ### Rates -/

theorem percent_of_lt (h : part ≤ total) (htotal : 0 < total) (hmax : total < 2 ^ 43) :
  percent part total + (if ∃ k ∈ lowHalves, IsHalf k part total then 1 else 0)
    = halfUp part total
  := by
  by_cases hhalf : ∃ k, IsHalf k part total
  · obtain ⟨k, hk⟩ := hhalf
    have hlow : (∃ k ∈ lowHalves, IsHalf k part total) ↔ k ∈ lowHalves := by
      constructor
      · rintro ⟨k', hmem, hk'⟩
        rwa [hk.eq hk' htotal]
      · intro hmem
        exact ⟨k, hmem, hk⟩
    rw [percent_of_isHalf hk h htotal (by omega), hk.halfUp_eq htotal]
    simp only [hlow]
    split <;> rfl
  · have hlow : ¬ ∃ k ∈ lowHalves, IsHalf k part total := by
      rintro ⟨k, -, hk⟩
      apply hhalf ⟨k, hk⟩
    rw [if_neg hlow, Nat.add_zero]
    apply percent_of_far h htotal
    apply far_of_not_isHalf htotal hmax (not_exists.mp hhalf)

theorem abs_percent_sub_le (h : part ≤ total) (htotal : 0 < total) :
  |(percent part total : Rat) - 100 * part / total| ≤ 1 / 2 + 1 / 2 ^ 44
  := by
  have hround : (percent part total : Rat) = Number.roundUp (exactPercent part total) := by
    exact_mod_cast percent_eq_roundUp h htotal
  rw [hround]
  apply (abs_sub_le _ (exactPercent part total) _).trans
  apply add_le_add (Number.abs_roundUp_sub_le _) (abs_exactPercent_sub_le h htotal)

/-- The result is the percentage rounded half up, except where the roundings to binary precision
move it over a half. -/
structure RoundsHalfUp (part total result : Nat) : Prop where
  /-- Away from the halves the percentage is rounded half up. -/
  of_far : (∀ k : Int, 1 / 2 ^ 44 < |100 * (part : Rat) / total - (k + 1 / 2)|) →
    result = halfUp part total
  /-- The low halves are rounded down, and the others up. -/
  of_isHalf : ∀ k, IsHalf k part total → total ≤ 2 ^ 53 →
    result = if k ∈ lowHalves then k else k + 1
  /-- With a small total only the low halves are not rounded half up. -/
  of_lt : total < 2 ^ 43 →
    result + (if ∃ k ∈ lowHalves, IsHalf k part total then 1 else 0) = halfUp part total
  /-- Close to a half the result is still one of the two nearest whole numbers. -/
  abs_sub_le : |(result : Rat) - 100 * part / total| ≤ 1 / 2 + 1 / 2 ^ 44

theorem roundsHalfUp_percent (h : part ≤ total) (htotal : 0 < total) :
  RoundsHalfUp part total (percent part total)
  where
  of_far := percent_of_far h htotal
  of_isHalf _ hk hmax := percent_of_isHalf hk h htotal hmax
  of_lt := percent_of_lt h htotal
  abs_sub_le := abs_percent_sub_le h htotal

/-- The percentage of a part, and the rate of a list with as many completed tasks, is rounded half
up except for the low halves and for what is close to a half of a very great total. -/
theorem rate_roundsHalfUp {part total : Nat} (h : part ≤ total) (htotal : 0 < total) :
  RoundsHalfUp part total (percent part total)
  ∧ ∀ tasks : List Task, completedCount tasks = part → tasks.length = total →
    RoundsHalfUp part total (summarize tasks).rate
  := by
  have hpercent := roundsHalfUp_percent h htotal
  refine ⟨hpercent, ?_⟩
  rintro tasks rfl rfl
  exact hpercent

/-- A list of eight tasks of which the first is completed. -/
def oneOfEight : List Task :=
  { Store.newTask ⟨"a", "2024-05-01T00:00:00.000Z"⟩ "Call" "Inbox" with completed := true }
    :: List.replicate 7 (Store.newTask ⟨"b", "2024-05-01T00:00:00.000Z"⟩ "Buy" "Inbox")

/-- An eighth is 12.5 percent, which is rounded up. -/
theorem rate_roundsHalfUp_oneOfEight :
  1 ≤ 8 ∧ 0 < 8 ∧ percent 1 8 = 13
    ∧ completedCount oneOfEight = 1 ∧ oneOfEight.length = 8 ∧ (summarize oneOfEight).rate = 13
  := by
  have hpart : 1 ≤ 8 := by
    decide
  have htotal : 0 < 8 := by
    decide
  have hcompleted : completedCount oneOfEight = 1 := rfl
  have hlength : oneOfEight.length = 8 := rfl
  obtain ⟨hpercent, hrate⟩ := rate_roundsHalfUp hpart htotal
  have hhalf : IsHalf 12 1 8 := rfl
  refine ⟨hpart, htotal, ?_, hcompleted, hlength, ?_⟩
  · exact hpercent.of_isHalf 12 hhalf (by decide)
  · exact (hrate oneOfEight hcompleted hlength).of_isHalf 12 hhalf (by decide)

/-- A part of 28.5 percent is rounded down. -/
theorem percent_of_low_half :
  percent 114 400 = 28 ∧ halfUp 114 400 = 29
  := by
  decide +kernel

end Agenda.Insight
