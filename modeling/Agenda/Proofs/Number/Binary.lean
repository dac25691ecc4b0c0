import Agenda.Number.Binary
import Mathlib.Algebra.Order.Field.Power
import Mathlib.Data.Rat.Floor
import Mathlib.Tactic.FieldSimp
import Mathlib.Tactic.Linarith
import Mathlib.Tactic.NormNum
import Mathlib.Tactic.Positivity
import Mathlib.Tactic.Ring

/-!
# Numbers of binary precision

A number of binary precision is its own rounding, and the rounding of any other number differs
from it by at most one part in `2 ^ 53`.  `Near n a b` says that the numbers differ by no more than
`n` roundings can make them differ; it is kept by quotients and products, so that what is computed
with roundings is compared to what would be computed without.  At last, whole numbers are made from
near ones: they are the same unless there is a half between them.
-/

namespace Agenda.Number

variable {q : Rat}

/-! ### The nearest integer -/

theorem abs_roundEven_sub_le (q : Rat) :
  |(roundEven q : Rat) - q| ≤ 1 / 2
  := by
  have hle : (q.floor : Rat) ≤ q := Int.floor_le q
  have hlt : q < q.floor + 1 := Int.lt_floor_add_one q
  rw [abs_le, roundEven]
  split_ifs
  all_goals
    push_cast
    constructor <;> linarith

/-- A whole number is the nearest integer to itself. -/
theorem roundEven_intCast (n : Int) :
  roundEven n = n
  := by
  simp [roundEven, Rat.floor_intCast]

/-! ### The binary exponent -/

theorem zpow_log2_le {n : Nat} (h : n ≠ 0) :
  (2 : Rat) ^ (n.log2 : Int) ≤ n
  := by
  rw [zpow_natCast]
  exact_mod_cast Nat.log2_self_le h

theorem lt_zpow_log2 (n : Nat) :
  (n : Rat) < (2 : Rat) ^ ((n.log2 : Int) + 1)
  := by
  have hlog : (n.log2 : Int) + 1 = (n.log2 + 1 : Nat) := by
    push_cast
    rfl
  rw [hlog, zpow_natCast]
  exact_mod_cast Nat.lt_log2_self

/-- The number lies between the power of two with its exponent and the next one. -/
theorem binaryExponent_spec (h : 0 < q) :
  (2 : Rat) ^ binaryExponent q ≤ q ∧ q < (2 : Rat) ^ (binaryExponent q + 1)
  := by
  have hnum : 0 < q.num := Rat.num_pos.mpr h
  have hq : q = (q.num.toNat : Rat) / q.den := by
    have hcast : (q.num.toNat : Rat) = (q.num : Rat) := by
      exact_mod_cast Int.toNat_of_nonneg hnum.le
    rw [hcast, Rat.num_div_den]
  have hden : (0 : Rat) < q.den := by
    exact_mod_cast q.den_pos
  rw [binaryExponent]
  generalize ha : (q.num.toNat.log2 : Int) = a
  generalize hb : (q.den.log2 : Int) = b
  have hlower : (2 : Rat) ^ (a - b - 1) < q := by
    rw [hq, lt_div_iff₀ hden]
    calc (2 : Rat) ^ (a - b - 1) * q.den
      _ < (2 : Rat) ^ (a - b - 1) * (2 : Rat) ^ (b + 1) := by
        gcongr
        rw [← hb]
        apply lt_zpow_log2
      _ = (2 : Rat) ^ a := by
        rw [← zpow_add₀ two_ne_zero]
        ring_nf
      _ ≤ q.num.toNat := by
        rw [← ha]
        apply zpow_log2_le (by omega)
  have hupper : q < (2 : Rat) ^ (a - b + 1) := by
    rw [hq, div_lt_iff₀ hden]
    calc (q.num.toNat : Rat)
      _ < (2 : Rat) ^ (a + 1) := by
        rw [← ha]
        apply lt_zpow_log2
      _ = (2 : Rat) ^ (a - b + 1) * (2 : Rat) ^ b := by
        rw [← zpow_add₀ two_ne_zero]
        ring_nf
      _ ≤ (2 : Rat) ^ (a - b + 1) * q.den := by
        gcongr
        rw [← hb]
        apply zpow_log2_le q.den_nz
  split
  · next hle => exact ⟨hle, hupper⟩
  · next hlt =>
    rw [sub_add_cancel]
    exact ⟨hlower.le, not_le.mp hlt⟩

/-! ### The nearest number of binary precision -/

theorem nearest53_of_pos (h : 0 < q) :
  nearest53 q
    = roundEven (q / (2 : Rat) ^ (binaryExponent q - 52)) * (2 : Rat) ^ (binaryExponent q - 52)
  := by
  rw [nearest53, if_neg (not_le.mpr h)]

theorem nearest53_zero :
  nearest53 0 = 0
  := if_pos le_rfl

/-- The error is at most one part in `2 ^ 53`. -/
theorem abs_nearest53_sub_le (h : 0 ≤ q) :
  |nearest53 q - q| ≤ q / 2 ^ 53
  := by
  rcases h.eq_or_lt with rfl | hpos
  · simp [nearest53_zero]
  · obtain ⟨hle, -⟩ := binaryExponent_spec hpos
    rw [nearest53_of_pos hpos]
    generalize hunit : (2 : Rat) ^ (binaryExponent q - 52) = unit
    have hunit_pos : 0 < unit := by
      rw [← hunit]
      apply zpow_pos two_pos
    have hunit_le : unit ≤ q / 2 ^ 52 := by
      rw [← hunit, zpow_sub₀ two_ne_zero]
      gcongr
      rfl
    calc |(roundEven (q / unit) : Rat) * unit - q|
      _ = |(roundEven (q / unit) : Rat) - q / unit| * unit := by
        rw [← abs_of_pos hunit_pos, ← abs_mul, sub_mul, abs_of_pos hunit_pos,
          div_mul_cancel₀ _ hunit_pos.ne']
      _ ≤ 1 / 2 * unit := by
        gcongr
        apply abs_roundEven_sub_le
      _ ≤ 1 / 2 * (q / 2 ^ 52) := by
        gcongr
      _ = q / 2 ^ 53 := by
        ring

/-- A number of binary precision is a multiple of the unit of its rounding. -/
theorem exists_mul_zpow_eq {m : Nat} (hm : 0 < m) (h : m ≤ 2 ^ 53) (s : Int) :
  ∃ n : Int,
    m * (2 : Rat) ^ s = n * (2 : Rat) ^ (binaryExponent (m * (2 : Rat) ^ s) - 52)
  := by
  have hpos : (0 : Rat) < m * (2 : Rat) ^ s := by
    positivity
  obtain ⟨hle, -⟩ := binaryExponent_spec hpos
  generalize hq : m * (2 : Rat) ^ s = q at *
  generalize binaryExponent q = e at *
  have hq_le : q ≤ (2 : Rat) ^ (53 + s) := by
    rw [← hq, zpow_add₀ two_ne_zero]
    gcongr
    exact_mod_cast h
  have he : e ≤ 53 + s := (zpow_le_zpow_iff_right₀ one_lt_two).mp (hle.trans hq_le)
  rcases he.eq_or_lt with rfl | hlt
  · -- The bounds leave only the power of two itself, which has one bit more.
    use 2 ^ 52
    rw [le_antisymm hq_le hle, Int.cast_pow, Int.cast_ofNat, ← zpow_natCast,
      ← zpow_add₀ two_ne_zero]
    congr 1
    omega
  · use m * 2 ^ (s - (e - 52)).toNat
    rw [← hq]
    push_cast
    rw [← zpow_natCast, Int.toNat_of_nonneg (by omega), mul_assoc, ← zpow_add₀ two_ne_zero,
      sub_add_cancel]

/-- A number of binary precision is its own rounding. -/
theorem nearest53_mul_zpow {m : Nat} (h : m ≤ 2 ^ 53) (s : Int) :
  nearest53 (m * (2 : Rat) ^ s) = m * (2 : Rat) ^ s
  := by
  rcases Nat.eq_zero_or_pos m with rfl | hm
  · simp [nearest53_zero]
  · have hpos : (0 : Rat) < m * (2 : Rat) ^ s := by
      positivity
    obtain ⟨n, hn⟩ := exists_mul_zpow_eq hm h s
    have hunit : (2 : Rat) ^ (binaryExponent (m * (2 : Rat) ^ s) - 52) ≠ 0 :=
      zpow_ne_zero _ two_ne_zero
    rw [nearest53_of_pos hpos, (div_eq_iff hunit).mpr hn, roundEven_intCast, ← hn]

theorem nearest53_natCast {n : Nat} (h : n ≤ 2 ^ 53) :
  nearest53 n = n
  := by
  simpa using nearest53_mul_zpow h 0

/-! ### Numbers that roundings keep near -/

/-- The factor by which a rounding makes a number greater or less, at most. -/
def slack : Rat :=
  2 ^ 53 / (2 ^ 53 - 1)

theorem slack_pos :
  0 < slack
  := by
  norm_num [slack]

/-- Neither number is greater than the other by more than the factors of `n` roundings. -/
structure Near (n : Nat) (a b : Rat) : Prop where
  le : a ≤ b * slack ^ n
  ge : b ≤ a * slack ^ n

namespace Near

variable {n n' : Nat} {a b c a' b' : Rat}

theorem symm (h : Near n a b) :
  Near n b a
  := ⟨h.ge, h.le⟩

theorem nonneg (h : Near n a b) (hb : 0 ≤ b) :
  0 ≤ a
  := (mul_nonneg_iff_of_pos_right (pow_pos slack_pos n)).mp (hb.trans h.ge)

theorem pos (h : Near n a b) (hb : 0 < b) :
  0 < a
  := (mul_pos_iff_of_pos_right (pow_pos slack_pos n)).mp (hb.trans_le h.ge)

theorem trans_le (h : Near n a b) (h' : Near n' b c) :
  a ≤ c * slack ^ (n + n')
  := by
  have hslack := slack_pos
  calc a
    _ ≤ b * slack ^ n := h.le
    _ ≤ c * slack ^ n' * slack ^ n := by
      gcongr
      apply h'.le
    _ = c * slack ^ (n + n') := by
      ring

theorem trans (h : Near n a b) (h' : Near n' b c) :
  Near (n + n') a c
  := by
  constructor
  · apply h.trans_le h'
  · rw [Nat.add_comm]
    apply h'.symm.trans_le h.symm

theorem mul_right (h : Near n a b) (hc : 0 ≤ c) :
  Near n (a * c) (b * c)
  := by
  constructor
  · rw [mul_right_comm]
    apply mul_le_mul_of_nonneg_right h.le hc
  · rw [mul_right_comm]
    apply mul_le_mul_of_nonneg_right h.ge hc

theorem div_le (h : Near n a b) (h' : Near n' a' b') (hb : 0 ≤ b) (hb' : 0 < b') :
  a / a' ≤ b / b' * slack ^ (n + n')
  := by
  have hslack := slack_pos
  rw [div_le_iff₀ (h'.pos hb')]
  calc a
    _ ≤ b * slack ^ n := h.le
    _ = b / b' * slack ^ n * b' := by
      field_simp
    _ ≤ b / b' * slack ^ n * (a' * slack ^ n') := by
      gcongr
      apply h'.ge
    _ = b / b' * slack ^ (n + n') * a' := by
      ring

theorem div (h : Near n a b) (h' : Near n' a' b') (hb : 0 ≤ b) (hb' : 0 < b') :
  Near (n + n') (a / a') (b / b')
  := by
  constructor
  · apply h.div_le h' hb hb'
  · apply h.symm.div_le h'.symm (h.nonneg hb) (h'.pos hb')

/-- Near numbers differ by a part of the one that is compared to. -/
theorem abs_sub_le (h : Near n a b) (hb : 0 ≤ b) :
  |a - b| ≤ b * (slack ^ n - 1)
  := by
  have hslack := pow_pos slack_pos n
  rw [abs_le]
  constructor
  · have hge : b / slack ^ n ≤ a := (div_le_iff₀ hslack).mpr h.ge
    have hsquare : 0 ≤ b / slack ^ n * (slack ^ n - 1) ^ 2 := by
      positivity
    have hsum : b / slack ^ n * (slack ^ n - 1) ^ 2
        = b / slack ^ n - b + b * (slack ^ n - 1) := by
      field_simp
      ring
    linarith
  · linarith [h.le]

end Near

/-- A rounding leaves a number near. -/
theorem near_nearest53 (h : 0 ≤ q) :
  Near 1 (nearest53 q) q
  := by
  obtain ⟨hge, hle⟩ := abs_le.mp (abs_nearest53_sub_le h)
  constructor
  all_goals
    norm_num [slack] at *
    linarith

/-! ### Whole numbers of near numbers -/

theorem roundUp_eq_iff {n : Int} :
  roundUp q = n ↔ (n : Rat) ≤ q + 1 / 2 ∧ q + 1 / 2 < n + 1
  := Int.floor_eq_iff (a := q + 1 / 2)

theorem abs_roundUp_sub_le (q : Rat) :
  |(roundUp q : Rat) - q| ≤ 1 / 2
  := by
  obtain ⟨hle, hlt⟩ := roundUp_eq_iff.mp (rfl : roundUp q = roundUp q)
  rw [abs_le]
  constructor <;> linarith

/-- A quotient of natural numbers is rounded by a division of natural numbers. -/
theorem roundUp_natCast_div {m n : Nat} (h : 0 < n) :
  roundUp (m / n) = ((2 * m + n) / (2 * n) : Nat)
  := by
  have hsum : (m / n + 1 / 2 : Rat) = (2 * m + n : Nat) / (2 * n : Nat) := by
    push_cast
    field_simp
  have hfloor := Rat.floor_natCast_div_natCast (2 * m + n) (2 * n)
  rw [← hsum] at hfloor
  exact hfloor

/-- The whole number is the same when there is no half between the numbers. -/
theorem roundUp_eq {r ε : Rat} (h : |q - r| ≤ ε) (hfar : ∀ k : Int, ε < |r - (k + 1 / 2)|) :
  roundUp q = roundUp r
  := by
  obtain ⟨hge, hle⟩ := abs_le.mp h
  obtain ⟨hge', hle'⟩ := abs_le.mp (abs_roundUp_sub_le r)
  have hbelow : ε < r - (roundUp r - 1 / 2) := by
    have hfar := hfar (roundUp r - 1)
    push_cast at hfar
    rw [abs_of_nonneg (by linarith)] at hfar
    linarith
  have habove : ε < roundUp r + 1 / 2 - r := by
    have hfar := hfar (roundUp r)
    rw [abs_of_nonpos (by linarith)] at hfar
    linarith
  rw [roundUp_eq_iff]
  constructor <;> linarith

end Agenda.Number
