import Mathlib.Data.List.Forall2
import Mathlib.Tactic.Linarith
import Agenda.Cli.Chart

/-!
# Faithful charts

The bars of a chart compare as its counts do.  Up to the width of the chart a bar is as long as
its count; a greater chart is scaled to that width, and then a bar is half a character off at most.
All bars begin in one column, for the labels are filled up to the length of the longest.
-/

namespace Agenda.Cli

variable {count count' greatest : Nat}

/-! ### Lengths of bars -/

theorem barLength_of_le (h : greatest ≤ chartWidth) :
  barLength count greatest = count
  := if_pos h

theorem barLength_of_lt (h : chartWidth < greatest) :
  barLength count greatest = (count * chartWidth + greatest / 2) / greatest
  := if_neg (Nat.not_le.mpr h)

/-- A greater count has no shorter bar. -/
theorem barLength_le_barLength (h : count ≤ count') :
  barLength count greatest ≤ barLength count' greatest
  := by
  rw [barLength, barLength]
  split
  · apply h
  · gcongr

/-- The greatest count has a bar of its own length, or one of the width of the chart. -/
theorem barLength_self (greatest : Nat) :
  barLength greatest greatest = min greatest chartWidth
  := by
  rcases le_or_gt greatest chartWidth with h | h
  · rw [barLength_of_le h, Nat.min_eq_left h]
  · have hpos : 0 < greatest := Nat.zero_lt_of_lt h
    have hhalf : greatest / 2 < greatest := Nat.div_lt_self hpos Nat.one_lt_two
    rw [barLength_of_lt h, Nat.min_eq_right h.le, Nat.mul_add_div hpos, Nat.div_eq_of_lt hhalf,
      Nat.add_zero]

theorem barLength_le_chartWidth (h : count ≤ greatest) :
  barLength count greatest ≤ chartWidth
  := by
  apply (barLength_le_barLength h).trans
  rw [barLength_self]
  apply Nat.min_le_right

/-- To add half of the divisor before a division rounds to a nearest number. -/
theorem two_mul_abs_add_half_div_sub_le {m n : Nat} (h : 0 < n) :
  2 * |(((m + n / 2) / n : Nat) : Int) * n - m| ≤ n
  := by
  have hmod := Nat.mod_lt (m + n / 2) h
  have hdiv : (m + n / 2) / n * n + (m + n / 2) % n = m + n / 2 := Nat.div_add_mod' _ _
  rw [← Nat.cast_mul]
  generalize (m + n / 2) / n * n = product at *
  rcases abs_cases ((product : Int) - m) with ⟨habs, -⟩ | ⟨habs, -⟩
  all_goals
    rw [habs]
    omega

/-- In a chart that is too wide, a bar is half a character too long or too short at most. -/
theorem two_mul_abs_barLength_sub_le (h : chartWidth < greatest) :
  2 * |(barLength count greatest : Int) * greatest - chartWidth * count| ≤ greatest
  := by
  have hrounded := two_mul_abs_add_half_div_sub_le (m := count * chartWidth)
    (Nat.zero_lt_of_lt h)
  rw [barLength_of_lt h, mul_comm (chartWidth : Int)]
  exact_mod_cast hrounded

/-- The lengths that bars have show the counts up to the greatest. -/
structure IsFaithful (greatest : Nat) (length : Nat → Nat) : Prop where
  /-- No bar is longer than the chart is wide. -/
  le_chartWidth : ∀ count ≤ greatest, length count ≤ chartWidth
  /-- The greatest count has a bar of its own length, or one of the width of the chart. -/
  greatest_eq : length greatest = min greatest chartWidth
  /-- A greater count has no shorter bar. -/
  monotone : ∀ count count', count ≤ count' → length count ≤ length count'
  /-- Small charts have bars that are as long as the counts. -/
  of_le : greatest ≤ chartWidth → ∀ count, length count = count
  /-- Other charts have bars whose lengths are the nearest ones. -/
  of_lt : chartWidth < greatest →
    ∀ count, 2 * |(length count : Int) * greatest - chartWidth * count| ≤ greatest

theorem isFaithful_barLength (greatest : Nat) :
  IsFaithful greatest (barLength · greatest)
  where
  le_chartWidth _ h := barLength_le_chartWidth h
  greatest_eq := barLength_self greatest
  monotone _ _ h := barLength_le_barLength h
  of_le h _ := barLength_of_le h
  of_lt h _ := two_mul_abs_barLength_sub_le h

/-! ### Rows -/

theorem greatestOf_eq (ns : List Nat) :
  greatestOf ns = ns.max?.getD 0
  := by
  rw [greatestOf, List.foldl_max, Nat.zero_max]

theorem le_greatestOf {n : Nat} {ns : List Nat} (h : n ∈ ns) :
  n ≤ greatestOf ns
  := by
  obtain ⟨m, hm⟩ := Option.isSome_iff_exists.mp (List.isSome_max?_of_mem h)
  rw [greatestOf_eq, hm, Option.getD_some]
  apply (List.max?_eq_some_iff.mp hm).2 n h

/-- The line shows the label and blanks up to the column, a bar of the given length and the
count. -/
def IsRow (glyph : Char) (column length : Nat) (label : String) (count : Nat) (line : String) :
    Prop :=
  ∃ blanks, (' ' :: ' ' :: (label.toList ++ List.replicate blanks ' ')).length = column
    ∧ line.toList = ' ' :: ' ' :: (label.toList ++ List.replicate blanks ' ')
      ++ (List.replicate length glyph ++ (if length = 0 then [] else [' '])
        ++ (toString count).toList)

theorem isRow_chartRow (glyph : Char) {width : Nat} (greatest : Nat) {label : String}
    (count : Nat) (h : label.length ≤ width) :
  IsRow glyph (width + 4) (barLength count greatest) label count
    (chartRow glyph width greatest label count)
  := by
  have hpad : (padLabel width label).toList ++ [' ', ' ']
      = label.toList ++ List.replicate (width - label.length + 2) ' ' := by
    rw [padLabel, String.toList_append, String.toList_ofList, List.append_assoc,
      List.replicate_add]
    rfl
  have hempty : (bar glyph count greatest).isEmpty = true ↔ barLength count greatest = 0 := by
    simp [bar]
  use width - label.length + 2
  constructor
  · simp only [List.length_cons, List.length_append, List.length_replicate, String.length_toList]
    omega
  · rw [← hpad, chartRow]
    simp only [hempty, String.toList_append]
    split
    · next hzero => simp [hzero]
    · next hne => simp [bar]

/-- The rows of a chart are drawn with one column and one greatest count. -/
theorem chart_eq (glyph : Char) {rows : List (String × Nat)} {greatest : Nat}
    (h : (rows.map (·.2)).max? = some greatest) :
  chart glyph rows = rows.map fun row =>
    chartRow glyph (greatestOf (rows.map (·.1.length))) greatest row.1 row.2
  := by
  have hne : rows ≠ [] := by
    rintro rfl
    contradiction
  rw [chart, if_neg (List.isEmpty_iff.not.mpr hne), greatestOf_eq (rows.map (·.2)), h]
  rfl

/-- A chart has a line for every row, in which the bar begins in the same column for all rows and
is as long as `IsFaithful` tells.  Nothing that is calculated for it exceeds 64 bits if the greatest
count allows it. -/
theorem chart_isFaithful (glyph : Char) {rows : List (String × Nat)} {greatest : Nat}
    (h : (rows.map (·.2)).max? = some greatest)
    (hfits : chartWidth * greatest + greatest / 2 < 2 ^ 64) :
  IsFaithful greatest (barLength · greatest)
  ∧ (∃ column, List.Forall₂
      (fun row line => IsRow glyph column (barLength row.2 greatest) row.1 row.2 line)
      rows (chart glyph rows))
  ∧ ∀ row ∈ rows, row.2 ≤ greatest ∧ row.2 * chartWidth + greatest / 2 < 2 ^ 64
  := by
  refine ⟨isFaithful_barLength greatest, ?_, ?_⟩
  · use greatestOf (rows.map (·.1.length)) + 4
    rw [chart_eq glyph h, List.forall₂_map_right_iff, List.forall₂_same]
    intro row hrow
    apply isRow_chartRow
    apply le_greatestOf (List.mem_map_of_mem hrow)
  · intro row hrow
    have hle : row.2 ≤ greatest :=
      (List.max?_eq_some_iff.mp h).2 row.2 (List.mem_map_of_mem hrow)
    have hproduct : row.2 * chartWidth ≤ chartWidth * greatest := by
      rw [mul_comm]
      gcongr
    exact ⟨hle, by omega⟩

/-- Rows of a chart that is scaled to its width. -/
def unevenRows : List (String × Nat) :=
  [("Work", 61), ("Über uns", 1), ("", 2)]

theorem chart_isFaithful_unevenRows :
  (unevenRows.map (·.2)).max? = some 61 ∧ chartWidth * 61 + 61 / 2 < 2 ^ 64
  ∧ IsFaithful 61 (barLength · 61)
  ∧ ∃ column, List.Forall₂
      (fun row line => IsRow '#' column (barLength row.2 61) row.1 row.2 line)
      unevenRows (chart '#' unevenRows)
  := by
  have hmax : (unevenRows.map (·.2)).max? = some 61 := by
    decide
  have hfits : chartWidth * 61 + 61 / 2 < 2 ^ 64 := by
    decide
  obtain ⟨hfaithful, hrows, -⟩ := chart_isFaithful '#' hmax hfits
  exact ⟨hmax, hfits, hfaithful, hrows⟩

end Agenda.Cli
