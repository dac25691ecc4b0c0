import Agenda.Insight.Summary
import Agenda.Proofs.Insight.Grouping
import Agenda.Proofs.Store.Cleaning

/-!
# Duplicates

The duplicates that a cleaning removes and those that are counted are the same: tasks with
one key.  `duplicates_coincide` says what such tasks have in common.  They need not agree on
title and category, since a bar in either can make the keys of different tasks equal; they do in
the lists that are unambiguous, and only in these.
-/

namespace Agenda

namespace Insight

/-- The groups are those of which the duplicates are counted.  Each has all tasks with its key, of
which there are several, and every task that shares its key with another one is in a group. -/
structure AreCounted (tasks : List Task) (groups : List Group) : Prop where
  duplicates_eq : (anomalies tasks).duplicates
    = groups.map fun g => ⟨Text.lower g.first.title, g.size⟩
  tasks_eq : ∀ g ∈ groups, g.tasks = tasks.filter (·.duplicateKey == g.key)
  size : ∀ g ∈ groups, 1 < g.size
  covers : ∀ t ∈ tasks, 1 < (tasks.map Task.duplicateKey).count t.duplicateKey →
    ∃ g ∈ groups, t ∈ g.tasks

/-- In every group of duplicates that is counted, the tasks are related to the first of them. -/
def CountsOnly (related : Task → Task → Prop) (tasks : List Task) : Prop :=
  ∃ groups, AreCounted tasks groups ∧ ∀ g ∈ groups, ∀ t ∈ g.others, related g.first t

theorem areCounted_collect (tasks : List Task) :
  AreCounted tasks ((Group.collect Task.duplicateKey tasks).filter (1 < ·.size))
  := by
  have hgroups := groups_collect Task.duplicateKey tasks
  constructor
  · rfl
  · intro g hg
    apply hgroups.tasks_eq g (List.mem_of_mem_filter hg)
  · intro g hg
    simpa using (List.mem_filter.mp hg).2
  · intro t ht hseveral
    obtain ⟨g, hg, hkey⟩ := List.mem_map.mp (hgroups.covers t ht)
    use g
    constructor
    · rw [List.mem_filter, hgroups.size_eq hg, hkey]
      exact ⟨hg, decide_eq_true hseveral⟩
    · rw [hgroups.tasks_eq g hg, List.mem_filter]
      exact ⟨ht, beq_iff_eq.mpr hkey.symm⟩

variable {tasks : List Task} {groups : List Group}

theorem AreCounted.mem_tasks_iff (h : AreCounted tasks groups) {g : Group} (hg : g ∈ groups)
    {t : Task} :
  t ∈ g.tasks ↔ t ∈ tasks ∧ t.duplicateKey = g.key
  := by
  rw [h.tasks_eq g hg, List.mem_filter, beq_iff_eq]

/-- Two tasks with one key are in one group. -/
theorem AreCounted.exists_group (h : AreCounted tasks groups) {t u : Task} (ht : t ∈ tasks)
    (hu : u ∈ tasks) (hne : t ≠ u) (hkey : t.duplicateKey = u.duplicateKey) :
  ∃ g ∈ groups, t ∈ g.tasks ∧ u ∈ g.tasks
  := by
  have hseveral : 1 < (tasks.map Task.duplicateKey).count t.duplicateKey := by
    have hboth : [t, u] ⊆ tasks.filter (·.duplicateKey == t.duplicateKey) := by
      simp [ht, hu, hkey]
    have hlength := (List.subperm_of_subset (by simpa using hne) hboth).length_le
    rw [List.count_eq_countP, List.countP_map, List.countP_eq_length_filter]
    exact hlength
  obtain ⟨g, hg, htask⟩ := h.covers t ht hseveral
  refine ⟨g, hg, htask, ?_⟩
  rw [h.mem_tasks_iff hg] at htask ⊢
  exact ⟨hu, hkey.symm.trans htask.2⟩

theorem countsOnly_coincides (tasks : List Task) :
  CountsOnly Task.Coincides tasks
  := by
  have hcounted := areCounted_collect tasks
  refine ⟨_, hcounted, ?_⟩
  intro g hg t ht
  obtain ⟨-, hfirst⟩ := (hcounted.mem_tasks_iff hg).mp (List.mem_cons_self (a := g.first))
  obtain ⟨-, hother⟩ := (hcounted.mem_tasks_iff hg).mp (List.mem_cons_of_mem g.first ht)
  apply Task.duplicateKey_eq_iff.mp (hfirst.trans hother.symm)

/-- The tasks of every group agree just when the list is unambiguous. -/
theorem countsOnly_agrees_iff (tasks : List Task) :
  CountsOnly Task.Agrees tasks ↔ Task.AreUnambiguous tasks
  := by
  constructor
  · rintro ⟨groups, hcounted, hagrees⟩ t ht u hu hcoincides
    by_cases heq : t = u
    · rw [heq]
      apply Task.Agrees.refl
    · obtain ⟨g, hg, htask, htask'⟩ :=
        hcounted.exists_group ht hu heq (Task.duplicateKey_eq_iff.mpr hcoincides)
      have hfirst : ∀ v ∈ g.tasks, g.first.Agrees v :=
        List.forall_mem_cons.mpr ⟨Task.Agrees.refl _, hagrees g hg⟩
      exact (hfirst t htask).symm.trans (hfirst u htask')
  · intro h
    obtain ⟨groups, hcounted, hcoincides⟩ := countsOnly_coincides tasks
    use groups, hcounted
    intro g hg t ht
    obtain ⟨hfirst, -⟩ := (hcounted.mem_tasks_iff hg).mp (List.mem_cons_self (a := g.first))
    obtain ⟨hother, -⟩ := (hcounted.mem_tasks_iff hg).mp (List.mem_cons_of_mem g.first ht)
    apply h _ hfirst t hother (hcoincides g hg t ht)

end Insight

/-- A cleaning removes a task, and a group of duplicates has it, only if it coincides with a
task that is left, or with the first of the group.  It agrees with that task on title and category
for all tasks of a list just when the list is unambiguous, with the categories filled in the case
of a cleaning.  Tasks coincide exactly when their keys are equal; if their titles have the same
number of bars in small letters, they agree. -/
theorem duplicates_coincide (defaultCategory : String) (tasks : List Task) :
  Store.RemovesOnly Task.Coincides defaultCategory tasks
    ∧ Insight.CountsOnly Task.Coincides tasks
    ∧ (Store.RemovesOnly Task.Agrees defaultCategory tasks ↔
      Task.AreUnambiguous (tasks.map (Store.fill defaultCategory)))
    ∧ (Insight.CountsOnly Task.Agrees tasks ↔ Task.AreUnambiguous tasks)
    ∧ ∀ t u : Task, (t.duplicateKey = u.duplicateKey ↔ t.Coincides u)
      ∧ (t.Agrees u ↔ t.Coincides u
        ∧ (Text.lower t.title).toList.count '|' = (Text.lower u.title).toList.count '|')
  := by
  use Store.removesOnly_coincides defaultCategory tasks, Insight.countsOnly_coincides tasks,
    Store.removesOnly_agrees_iff defaultCategory tasks, Insight.countsOnly_agrees_iff tasks
  intro t u
  use Task.duplicateKey_eq_iff
  constructor
  · intro h
    constructor
    · left
      apply h
    · rw [h.1]
  · rintro ⟨h, hbars⟩
    apply h.agrees hbars

/-- A task with a bar in its title. -/
def barInTitle : Task :=
  ⟨"1", "a|b", "c", "", "2024-05-01T00:00:00.000Z", false, none⟩

/-- A task with a bar in its category and the same key. -/
def barInCategory : Task :=
  ⟨"2", "a", "b|c", "", "2024-05-01T00:00:00.000Z", false, none⟩

theorem not_agrees_bars :
  ¬ barInTitle.Agrees barInCategory
  := by
  rintro ⟨htitle, -⟩
  revert htitle
  decide

/-- Any list with both of these tasks is ambiguous. -/
theorem not_areUnambiguous_bars {tasks : List Task} (h : barInTitle ∈ tasks)
    (h' : barInCategory ∈ tasks) :
  ¬ Task.AreUnambiguous tasks
  := by
  intro hunambiguous
  apply not_agrees_bars
  apply hunambiguous barInTitle h barInCategory h'
  apply Task.duplicateKey_eq_iff.mp
  decide

/-- Of two tasks that differ in title and category, a cleaning removes one as a duplicate of
the other, and the two are counted as duplicates. -/
theorem duplicates_disagree :
  ¬ Store.RemovesOnly Task.Agrees "Uncategorized" [barInTitle, barInCategory]
    ∧ ¬ Insight.CountsOnly Task.Agrees [barInTitle, barInCategory]
  := by
  rw [Store.removesOnly_agrees_iff, Insight.countsOnly_agrees_iff]
  constructor
  · apply not_areUnambiguous_bars <;> decide
  · apply not_areUnambiguous_bars <;> decide

end Agenda
