import Agenda.Query.Select
import Mathlib.Data.List.Induction
import Mathlib.Data.Nat.Find
import Mathlib.Order.Basic
import Mathlib.Tactic.Use

/-!
# Rows of a selection

A row is selected when the condition holds of its task, the predicates being joined strictly
from the left.  `Condition.selects` says so after each predicate in turn, and
`Condition.entry` is the number of the predicate at which a row last entered the selection.

`rows_entered_in_order` determines the selection: it has every selected row once, and its
rows stand in the order of their entries, those of one entry in the order of the list.
-/

namespace Agenda.Query

/-! ### The rows of one predicate -/

theorem Predicate.mem_rows (p : Predicate) (tasks : List Task) (i : Nat) :
  i ∈ p.rows tasks ↔ (tasks[i]?).any p.holds = true
  := by
  simp only [rows, List.mem_map, List.mem_filter, Option.any_eq_true]
  constructor
  · rintro ⟨⟨t, j⟩, ⟨hmem, hholds⟩, rfl⟩
    use t
    constructor
    · apply List.mem_zipIdx_iff_getElem?.mp hmem
    · apply hholds
  · rintro ⟨t, ht, hholds⟩
    use (t, i)
    constructor
    · use List.mem_zipIdx_iff_getElem?.mpr ht
    · rfl

/-- The rows of a predicate ascend. -/
theorem Predicate.pairwise_rows (p : Predicate) (tasks : List Task) :
  (p.rows tasks).Pairwise (· < ·)
  := by
  have hsub : (p.rows tasks).Sublist (tasks.zipIdx.map (·.2)) :=
    (List.filter_sublist (p := fun row : Task × Nat => p.holds row.1)).map _
  apply List.Pairwise.sublist hsub
  rw [List.zipIdx_map_snd, ← List.range_eq_range']
  apply List.pairwise_lt_range

/-! ### Selected rows and their entries -/

/-- The truth of one more predicate joined to that of the predicates before it. -/
def Connective.combine : Connective → (held holds : Bool) → Bool
  | .and, held, holds => held && holds
  | .or, held, holds => held || holds

namespace Condition

/-- The task satisfies the condition, the predicates being joined from the left. -/
def admits (c : Condition) (t : Task) : Bool :=
  c.rest.foldl (fun held (joint, p) => joint.combine held (p.holds t)) (c.first.holds t)

/-- The condition without the joined predicates after the first `k`. -/
def upTo (c : Condition) (k : Nat) : Condition :=
  { c with rest := c.rest.take k }

/-- The row is selected after the first predicate and the first `k` joined ones. -/
def selects (c : Condition) (tasks : List Task) (k i : Nat) : Bool :=
  (tasks[i]?).any (c.upTo k).admits

/-- The row is selected after the `k`-th joined predicate and after all that follow it. -/
def SelectsFrom (c : Condition) (tasks : List Task) (i k : Nat) : Prop :=
  ∀ l ≤ c.rest.length, k ≤ l → c.selects tasks l i = true

instance (c : Condition) (tasks : List Task) (i : Nat) : DecidablePred (c.SelectsFrom tasks i) :=
  fun k => inferInstanceAs (Decidable (∀ l ≤ c.rest.length, k ≤ l → c.selects tasks l i = true))

theorem exists_selectsFrom (c : Condition) (tasks : List Task) (i : Nat) :
  ∃ k, c.SelectsFrom tasks i k
  := by
  use c.rest.length + 1
  intro l hl hk
  omega

/-- The least number of a predicate from which on the row is selected: the predicate at
which it last entered the selection.  The first predicate has the number zero. -/
def entry (c : Condition) (tasks : List Task) (i : Nat) : Nat :=
  Nat.find (c.exists_selectsFrom tasks i)

/-- The row `i` entered the selection before the row `j`, or with it and stands before it in
the list. -/
def Precedes (c : Condition) (tasks : List Task) (i j : Nat) : Prop :=
  c.entry tasks i < c.entry tasks j ∨ c.entry tasks i = c.entry tasks j ∧ i < j

variable {c : Condition} {tasks : List Task} {i k : Nat}

theorem entry_le_iff :
  c.entry tasks i ≤ k ↔ c.SelectsFrom tasks i k
  := by
  rw [entry, Nat.find_le_iff]
  constructor
  · rintro ⟨n, hn, h⟩ l hl hk
    apply h l hl (le_trans hn hk)
  · intro h
    use k

theorem precedes_asymm {i j : Nat} (h : c.Precedes tasks i j) :
  ¬ c.Precedes tasks j i
  := by
  unfold Precedes at *
  omega

/-! ### One more predicate -/

/-- The condition with one more predicate joined to it. -/
def snoc (c : Condition) (joint : Connective) (p : Predicate) : Condition :=
  { c with rest := c.rest ++ [(joint, p)] }

/-- Every condition arises from its first predicate by joining the others. -/
theorem snoc_induction {motive : Condition → Prop}
    (first : ∀ p, motive ⟨p, []⟩)
    (snoc : ∀ c joint p, motive c → motive (c.snoc joint p)) (c : Condition) :
  motive c
  := by
  obtain ⟨p, rest⟩ := c
  induction rest using List.reverseRecOn with
  | nil => apply first
  | append_singleton rest x ih => apply snoc ⟨p, rest⟩ x.1 x.2 ih

variable (joint : Connective) (p : Predicate)

theorem length_rest_snoc :
  (c.snoc joint p).rest.length = c.rest.length + 1
  := by
  simp [snoc]

theorem rows_snoc :
  (c.snoc joint p).rows tasks = joint.join (c.rows tasks) (p.rows tasks)
  := by
  simp [snoc, rows]

/-- The predicates before the last decide as they do without it. -/
theorem selects_snoc_of_le (h : k ≤ c.rest.length) :
  (c.snoc joint p).selects tasks k i = c.selects tasks k i
  := by
  simp [selects, upTo, snoc, List.take_append_of_le_length h]

/-- The last predicate is joined to the decision of those before it. -/
theorem selects_snoc :
  (c.snoc joint p).selects tasks (c.rest.length + 1) i
    = joint.combine (c.selects tasks c.rest.length i) ((tasks[i]?).any p.holds)
  := by
  have htake : (c.rest ++ [(joint, p)]).take (c.rest.length + 1) = c.rest ++ [(joint, p)] := by
    rw [List.take_of_length_le]
    simp
  cases ht : tasks[i]? with
  | none => cases joint <;> simp [selects, ht, Connective.combine]
  | some t => simp [selects, ht, upTo, snoc, htake, admits]

/-- A row that is selected after the last predicate has the entry that it had before it. -/
theorem entry_snoc (h : (c.snoc joint p).selects tasks (c.rest.length + 1) i = true) :
  (c.snoc joint p).entry tasks i = c.entry tasks i
  := by
  apply eq_of_forall_ge_iff
  intro k
  rw [entry_le_iff, entry_le_iff]
  constructor
  · intro hfrom l hl hk
    rw [← selects_snoc_of_le joint p hl]
    apply hfrom l _ hk
    rw [length_rest_snoc]
    omega
  · intro hfrom l hl hk
    rw [length_rest_snoc] at hl
    by_cases hlast : l = c.rest.length + 1
    · rw [hlast]
      apply h
    · have hle : l ≤ c.rest.length := by omega
      rw [selects_snoc_of_le joint p hle]
      apply hfrom l hle hk

/-- The selected rows are those whose entry is the number of a predicate. -/
theorem entry_le_length_iff :
  c.entry tasks i ≤ c.rest.length ↔ c.selects tasks c.rest.length i = true
  := by
  rw [entry_le_iff]
  constructor
  · intro h
    apply h _ le_rfl le_rfl
  · intro h l hl hk
    rw [le_antisymm hl hk]
    apply h

/-- The entry of a row that is not selected is the number that the next predicate will
have. -/
theorem entry_of_not_selects (h : c.selects tasks c.rest.length i = false) :
  c.entry tasks i = c.rest.length + 1
  := by
  apply le_antisymm
  · rw [entry_le_iff]
    intro l hl hk
    omega
  · rw [Nat.succ_le_iff, ← not_le, entry_le_length_iff, h]
    simp

/-! ### The rows of a condition -/

theorem mem_rows :
  ∀ {i : Nat}, i ∈ c.rows tasks ↔ c.selects tasks c.rest.length i = true
  := by
  induction c using snoc_induction with
  | first p =>
    intro i
    apply Predicate.mem_rows
  | snoc c joint p ih =>
    intro i
    rw [rows_snoc, length_rest_snoc, selects_snoc]
    cases joint with
    | and =>
      simp only [Connective.join, Connective.combine, List.mem_filter, List.contains_iff_mem,
        Bool.and_eq_true, ih, Predicate.mem_rows]
    | or =>
      simp only [Connective.join, Connective.combine, List.mem_append, List.mem_filter,
        Bool.not_eq_true', ← Bool.not_eq_true, List.contains_iff_mem, Bool.or_eq_true, ih,
        Predicate.mem_rows]
      tauto

/-- A selection is ordered by the entries of its rows. -/
theorem pairwise_rows (c : Condition) (tasks : List Task) :
  (c.rows tasks).Pairwise (c.Precedes tasks)
  := by
  induction c using snoc_induction with
  | first p =>
    apply List.Pairwise.imp_of_mem _ (p.pairwise_rows tasks)
    intro i j hi hj hlt
    have entry_zero : ∀ {i}, i ∈ p.rows tasks → Condition.entry ⟨p, []⟩ tasks i = 0 := by
      intro i hi
      apply Nat.le_zero.mp
      apply entry_le_length_iff.mpr
      apply (p.mem_rows tasks i).mp hi
    right
    rw [entry_zero hi, entry_zero hj]
    use rfl
  | snoc c joint p ih =>
    have entry_eq : ∀ {i}, i ∈ (c.snoc joint p).rows tasks →
        (c.snoc joint p).entry tasks i = c.entry tasks i := by
      intro i hi
      apply entry_snoc
      rw [← length_rest_snoc joint p]
      apply mem_rows.mp hi
    apply List.Pairwise.imp_of_mem (R := c.Precedes tasks)
    · intro i j hi hj h
      unfold Precedes
      rw [entry_eq hi, entry_eq hj]
      apply h
    · rw [rows_snoc]
      cases joint with
      | and => apply List.Pairwise.filter _ ih
      | or =>
        have entry_new : ∀ {i}, i ∈ (p.rows tasks).filter (!(c.rows tasks).contains ·) →
            c.entry tasks i = c.rest.length + 1 := by
          intro i hi
          apply entry_of_not_selects
          simpa [mem_rows] using (List.mem_filter.mp hi).2
        apply List.pairwise_append.mpr
        use ih
        constructor
        · apply List.Pairwise.imp_of_mem _ (List.Pairwise.filter _ (p.pairwise_rows tasks))
          intro i j hi hj hlt
          right
          rw [entry_new hi, entry_new hj]
          use rfl
        · intro i hi j hj
          left
          rw [entry_new hj]
          apply Nat.lt_succ_of_le
          apply entry_le_length_iff.mpr (mem_rows.mp hi)

theorem nodup_rows (c : Condition) (tasks : List Task) :
  (c.rows tasks).Nodup
  := by
  apply List.Pairwise.imp _ (c.pairwise_rows tasks)
  rintro i j h rfl
  apply precedes_asymm h h

/-- Which of two rows stands first in the selection is decided by their entries and their
places in the list. -/
theorem lt_iff_precedes (c : Condition) (tasks : List Task) (a b : Fin (c.rows tasks).length) :
  a < b ↔ c.Precedes tasks ((c.rows tasks).get a) ((c.rows tasks).get b)
  := by
  have hpairwise : ∀ a b : Fin (c.rows tasks).length, a < b →
      c.Precedes tasks ((c.rows tasks).get a) ((c.rows tasks).get b) :=
    fun a b => List.pairwise_iff_getElem.mp (c.pairwise_rows tasks) a b a.isLt b.isLt
  constructor
  · apply hpairwise
  · intro h
    rcases Nat.lt_trichotomy a b with hlt | heq | hlt
    · apply hlt
    · obtain rfl := Fin.ext heq
      apply absurd h (precedes_asymm h)
    · apply absurd h (precedes_asymm (hpairwise b a hlt))

theorem lt_length_of_mem_rows (h : i ∈ c.rows tasks) :
  i < tasks.length
  := by
  have hsel := mem_rows.mp h
  simp only [selects, Option.any_eq_true] at hsel
  obtain ⟨t, ht, -⟩ := hsel
  apply (List.getElem?_eq_some_iff.mp ht).1

end Condition

theorem Statement.lt_length_of_mem_rows {s : Statement} {tasks : List Task} {i : Nat}
    (h : i ∈ s.rows tasks) :
  i < tasks.length
  := by
  obtain ⟨_ | c⟩ := s
  · apply List.mem_range.mp h
  · apply Condition.lt_length_of_mem_rows h

/-- The selected tasks are those at the selected rows, in the same order. -/
theorem Statement.map_some_select (s : Statement) (tasks : List Task) :
  (s.select tasks).map some = (s.rows tasks).map (tasks[·]?)
  := by
  have hsome : ∀ rows : List Nat, (∀ i ∈ rows, i < tasks.length) →
      (rows.filterMap (tasks[·]?)).map some = rows.map (tasks[·]?) := by
    intro rows
    induction rows with
    | nil =>
      intro _
      rfl
    | cons i rows ih =>
      intro h
      have hi := h i List.mem_cons_self
      simp [List.getElem?_eq_getElem hi, ih (fun j hj => h j (List.mem_cons_of_mem i hj))]
  apply hsome
  intro i
  apply lt_length_of_mem_rows

/-- A statement without a condition selects all rows in order.  A condition selects every row
of which it holds exactly once and no other one, and its rows are ordered by the predicates at
which they last entered the selection and then by their places in the list. -/
theorem rows_entered_in_order (tasks : List Task) :
  (Statement.mk none).rows tasks = List.range tasks.length
    ∧ (∀ c : Condition,
        (∀ i, ((Statement.mk (some c)).rows tasks).count i
          = if c.selects tasks c.rest.length i then 1 else 0)
        ∧ ∀ a b : Fin ((Statement.mk (some c)).rows tasks).length,
          a < b ↔ c.Precedes tasks (((Statement.mk (some c)).rows tasks).get a)
            (((Statement.mk (some c)).rows tasks).get b))
    ∧ ∀ s : Statement, (s.select tasks).map some = (s.rows tasks).map (tasks[·]?)
  := by
  constructor
  · rfl
  constructor
  · intro c
    constructor
    · intro i
      apply Eq.trans (List.Nodup.count (c.nodup_rows tasks))
      simp only [Condition.mem_rows]
    · apply c.lt_iff_precedes tasks
  · intro s
    apply s.map_some_select

end Agenda.Query
