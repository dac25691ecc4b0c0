import Agenda.Proofs.Number.Binary

/-!
# The order of rounded numbers

Roundings keep the order of numbers, although they make many numbers equal.  Of two numbers that
are rounded against their order, the smaller lies above the middle of the results and the greater
below it, so there is no more than one number.  Numbers whose binary exponents differ have a power
of two between them, which is its own rounding and lies between the roundings as well.
-/

namespace Agenda.Number

variable {p q : Rat}

/-- The nearest integers are in the order of the numbers. -/
theorem roundEven_le_roundEven (h : p ≤ q) :
  roundEven p ≤ roundEven q
  := by
  by_contra hlt
  rw [not_le, Int.lt_iff_add_one_le] at hlt
  have hlt : (roundEven q : Rat) + 1 ≤ roundEven p := by
    exact_mod_cast hlt
  obtain ⟨-, hp⟩ := abs_le.mp (abs_roundEven_sub_le p)
  obtain ⟨hq, -⟩ := abs_le.mp (abs_roundEven_sub_le q)
  have heq : p = q := by
    linarith
  rw [heq] at hlt
  linarith

/-- The greater of two numbers has no smaller binary exponent. -/
theorem binaryExponent_le_binaryExponent (hp : 0 < p) (h : p ≤ q) :
  binaryExponent p ≤ binaryExponent q
  := by
  obtain ⟨hle, -⟩ := binaryExponent_spec hp
  obtain ⟨-, hlt⟩ := binaryExponent_spec (hp.trans_le h)
  have hpower := (zpow_lt_zpow_iff_right₀ one_lt_two).mp ((hle.trans h).trans_lt hlt)
  omega

/-! ### Multiples of a unit -/

/-- The nearest multiples of a unit are in the order of the numbers. -/
theorem roundEven_div_mul_le {unit : Rat} (hunit : 0 < unit) (h : p ≤ q) :
  (roundEven (p / unit) : Rat) * unit ≤ roundEven (q / unit) * unit
  := by
  gcongr
  apply roundEven_le_roundEven
  gcongr

/-- A power of two is a multiple of the units of the numbers that have no greater exponent. -/
theorem roundEven_zpow_div_mul {e k : Int} (h : e ≤ k) :
  (roundEven ((2 : Rat) ^ k / (2 : Rat) ^ (e - 52)) : Rat) * (2 : Rat) ^ (e - 52) = (2 : Rat) ^ k
  := by
  have hunit : (2 : Rat) ^ (e - 52) ≠ 0 := zpow_ne_zero _ two_ne_zero
  have hwhole : (2 : Rat) ^ k / (2 : Rat) ^ (e - 52) = ((2 ^ (k - (e - 52)).toNat : Int) : Rat) := by
    push_cast
    rw [← zpow_sub₀ two_ne_zero, ← zpow_natCast, Int.toNat_of_nonneg (by omega)]
  rw [hwhole, roundEven_intCast, ← hwhole, div_mul_cancel₀ _ hunit]

/-- The rounding of a number is not less than the power of two that is not greater than it. -/
theorem zpow_binaryExponent_le_nearest53 (h : 0 < q) :
  (2 : Rat) ^ binaryExponent q ≤ nearest53 q
  := by
  obtain ⟨hle, -⟩ := binaryExponent_spec h
  rw [nearest53_of_pos h, ← roundEven_zpow_div_mul le_rfl]
  apply roundEven_div_mul_le (zpow_pos two_pos _) hle

/-- The rounding of a number is not greater than the power of two that is greater than it. -/
theorem nearest53_le_zpow_binaryExponent (h : 0 < q) :
  nearest53 q ≤ (2 : Rat) ^ (binaryExponent q + 1)
  := by
  obtain ⟨-, hlt⟩ := binaryExponent_spec h
  have hpower : binaryExponent q ≤ binaryExponent q + 1 := by
    omega
  rw [nearest53_of_pos h, ← roundEven_zpow_div_mul hpower]
  apply roundEven_div_mul_le (zpow_pos two_pos _) hlt.le

/-! ### Roundings -/

theorem nearest53_nonneg (q : Rat) :
  0 ≤ nearest53 q
  := by
  rcases le_or_gt q 0 with h | h
  · rw [nearest53, if_pos h]
  · apply (zpow_pos two_pos _).le.trans (zpow_binaryExponent_le_nearest53 h)

/-- Roundings are in the order of the numbers. -/
theorem nearest53_le_nearest53 (h : p ≤ q) :
  nearest53 p ≤ nearest53 q
  := by
  rcases le_or_gt p 0 with hp | hp
  · rw [nearest53, if_pos hp]
    apply nearest53_nonneg
  · have hq := hp.trans_le h
    rcases (binaryExponent_le_binaryExponent hp h).eq_or_lt with heq | hlt
    · rw [nearest53_of_pos hp, nearest53_of_pos hq, heq]
      apply roundEven_div_mul_le (zpow_pos two_pos _) h
    · calc nearest53 p
        _ ≤ (2 : Rat) ^ (binaryExponent p + 1) := nearest53_le_zpow_binaryExponent hp
        _ ≤ (2 : Rat) ^ binaryExponent q := by
          gcongr
          · norm_num
          · omega
        _ ≤ nearest53 q := zpow_binaryExponent_le_nearest53 hq

theorem nearest53_pos (h : 0 < q) :
  0 < nearest53 q
  := (zpow_pos two_pos _).trans_le (zpow_binaryExponent_le_nearest53 h)

/-- Whole numbers are in the order of the numbers of which they are made. -/
theorem roundUp_le_roundUp (h : p ≤ q) :
  roundUp p ≤ roundUp q
  := Int.floor_le_floor (add_le_add_left h (1 / 2))

theorem roundUp_natCast (n : Nat) :
  roundUp n = n
  := by
  rw [roundUp_eq_iff]
  push_cast
  constructor <;> linarith

end Agenda.Number
