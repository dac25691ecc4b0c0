import Agenda.Insight.Summary
import Agenda.Proofs.Insight.Grouping
import Agenda.Proofs.Store.Tidying

/-!
# Duplicates that are counted and removed

The duplicates that are counted are those that a cleaning would remove.  There is a group for
every key that several tasks have, in the order in which these keys are first seen, with the title
of the first of the tasks and their number.  If no category is missing, a cleaning removes all tasks
of a group but one.  After a cleaning there are no groups.
-/

namespace Agenda.Insight

variable {tasks : List Task} {groups : List Group}

/-- How many tasks of the list have the key of the task. -/
def copies (tasks : List Task) (t : Task) : Nat :=
  (tasks.map Task.duplicateKey).count t.duplicateKey

theorem duplicates_eq (tasks : List Task) :
  (anomalies tasks).duplicates =
    ((Store.originals tasks).filter (1 < copies tasks ·)).map fun t =>
      ⟨Text.lower t.title, copies tasks t⟩
  := by
  have hgroups := groups_collect Task.duplicateKey tasks
  have hsize : ∀ g ∈ Group.collect Task.duplicateKey tasks, copies tasks g.first = g.size := by
    intro g hg
    rw [copies, hgroups.keyOf_first hg, hgroups.size_eq hg]
  have horiginals : Store.originals tasks
      = (Group.collect Task.duplicateKey tasks).map Group.first :=
    (map_first_collect Task.duplicateKey tasks).symm
  rw [horiginals, List.filter_map, List.map_map]
  apply Eq.trans (b := ((Group.collect Task.duplicateKey tasks).filter (1 < ·.size)).map
    ((fun t => ⟨Text.lower t.title, copies tasks t⟩) ∘ Group.first))
  · apply List.map_congr_left
    intro g hg
    rw [Function.comp_apply, hsize g (List.mem_of_mem_filter hg)]
  · apply congrArg
    apply List.filter_congr
    intro g hg
    rw [Function.comp_apply, hsize g hg]

/-- Without one task of each group, only the groups of several tasks matter. -/
theorem length_add_sum_size (groups : List Group) :
  groups.length + ((groups.filter (1 < ·.size)).map fun g => g.size - 1).sum
    = (groups.map Group.size).sum
  := by
  induction groups with
  | nil => rfl
  | cons g groups ih =>
    have hpos := g.size_pos
    rw [List.filter_cons]
    split
    · next hseveral =>
      simp only [List.map_cons, List.sum_cons, List.length_cons, ← ih]
      omega
    · next hone =>
      have hsize : g.size = 1 := by
        simp only [decide_eq_true_eq] at hone
        omega
      simp only [List.map_cons, List.sum_cons, List.length_cons, hsize, ← ih]
      omega

/-- Besides the first task of every key there are the other tasks of the groups. -/
theorem length_originals_add_sum_copies (tasks : List Task) :
  (Store.originals tasks).length
    + ((anomalies tasks).duplicates.map fun d => d.copies - 1).sum = tasks.length
  := by
  have hgroups := groups_collect Task.duplicateKey tasks
  have hlength : (Store.originals tasks).length
      = (Group.collect Task.duplicateKey tasks).length := by
    rw [← List.length_map Group.first, map_first_collect]
    rfl
  have hsizes : (Group.collect Task.duplicateKey tasks).map Group.size
      = (Group.collect Task.duplicateKey tasks).map fun g =>
        (tasks.map Task.duplicateKey).count g.key :=
    List.map_congr_left fun g hg => hgroups.size_eq hg
  have hsum := length_add_sum_size (Group.collect Task.duplicateKey tasks)
  rw [hsizes, hgroups.sum_count (List.Subset.refl tasks)] at hsum
  rw [hlength, anomalies, List.map_map]
  exact hsum

/-- Tasks with distinct keys are no duplicates of each other. -/
theorem duplicates_of_nodup (h : (tasks.map Task.duplicateKey).Nodup) :
  (anomalies tasks).duplicates = []
  := by
  rw [duplicates_eq, List.map_eq_nil_iff, List.filter_eq_nil_iff]
  intro t _ hseveral
  apply Nat.not_lt.mpr (List.nodup_iff_count_le_one.mp h t.duplicateKey)
  exact of_decide_eq_true hseveral

theorem duplicatesLine_of_eq_nil {a : Anomalies} (h : a.duplicates = []) :
  a.duplicatesLine = "Potential duplicates: 0"
  := by
  unfold Anomalies.duplicatesLine
  rw [if_pos (List.isEmpty_iff.mpr h)]
  decide

/-- There is a group of duplicates for the first task of every key that several tasks have.  When no
category is missing, a cleaning removes all tasks of these groups except one of each, and after a
cleaning, on whatever storage, no duplicates are counted. -/
theorem cleaning_removes_copies :
  (∀ tasks : List Task, (anomalies tasks).duplicates =
    ((Store.originals tasks).filter (1 < copies tasks ·)).map fun t =>
      ⟨Text.lower t.title, copies tasks t⟩)
  ∧ ∀ {m : Type → Type} [Monad m] {σ : Type} (B : Store.Backend m σ) (s : Store) (state : σ),
    let left := (B.run (s.tidy B.storage) state).1.2.tasks
    ((∀ t ∈ s.tasks, t.category ≠ "") →
      left.length + ((anomalies s.tasks).duplicates.map fun d => d.copies - 1).sum
        = s.tasks.length)
    ∧ (anomalies left).duplicates = []
    ∧ (anomalies left).duplicatesLine = "Potential duplicates: 0"
  := by
  refine ⟨duplicates_eq, ?_⟩
  intro m _ σ B s state left
  have hleft : left = Store.originals (Store.filled s.options.defaultCategory s.tasks) :=
    congrArg Store.tasks (Store.run_tidy B s state)
  have hnone : (anomalies left).duplicates = [] := by
    apply duplicates_of_nodup
    rw [hleft]
    apply Store.nodup_originals
  refine ⟨?_, hnone, duplicatesLine_of_eq_nil hnone⟩
  intro hcategory
  rw [hleft, Store.filled_of_forall_ne hcategory]
  apply length_originals_add_sum_copies

/-- A call that is there twice. -/
def callTwice : Store where
  tasks := [Store.newTask ⟨"a", "2024-05-01T00:00:00.000Z"⟩ "Call" "Inbox",
    Store.newTask ⟨"b", "2024-05-01T00:00:00.000Z"⟩ "Buy" "Inbox",
    Store.newTask ⟨"c", "2024-05-01T00:00:00.000Z"⟩ "CALL" "inbox"]
  options := ⟨"tasks", "Inbox"⟩

/-- The two calls are counted, and one of them is removed. -/
theorem cleaning_removes_copies_callTwice :
  (∀ t ∈ callTwice.tasks, t.category ≠ "")
    ∧ (anomalies callTwice.tasks).duplicates = [⟨"call", 2⟩]
    ∧ ∀ state, ((Store.Backend.inMemory).run (callTwice.tidy Store.Backend.inMemory.storage)
      state).1.2.tasks.length + 1 = callTwice.tasks.length
  := by
  have hcategory : ∀ t ∈ callTwice.tasks, t.category ≠ "" := by
    decide
  have hduplicates : (anomalies callTwice.tasks).duplicates = [⟨"call", 2⟩] := by
    decide +kernel
  refine ⟨hcategory, hduplicates, ?_⟩
  intro state
  have hlength := (cleaning_removes_copies.2 Store.Backend.inMemory callTwice state).1 hcategory
  rw [hduplicates] at hlength
  exact hlength

end Agenda.Insight
