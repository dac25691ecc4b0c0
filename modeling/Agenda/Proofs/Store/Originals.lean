import Agenda.Task.Basic
import Mathlib.Data.List.Induction
import Mathlib.Data.List.Nodup
import Mathlib.Data.Nat.Find

/-!
# Tasks with new keys

The key of a task is new when no task before it in the list has the same key.  `firsts` are the
tasks with new keys, in the order of the list, so that there is one for every key; `originals` are
these tasks for the keys of duplicates, and `repetitions` are the others.  A task that is added at
the end of the list is one of the first or a repetition, and does not change what the tasks before
it are.
-/

namespace Agenda.Store

/-- The key at the position is at no position before it. -/
def IsNew (keys : List String) (i : Nat) : Prop :=
  ∀ j < i, keys[j]? ≠ keys[i]?

instance (keys : List String) : DecidablePred (IsNew keys) :=
  fun i => inferInstanceAs (Decidable (∀ j < i, keys[j]? ≠ keys[i]?))

/-- The positions that the list has, in order. -/
def rowsAt (positions : Nat → Prop) [DecidablePred positions] (tasks : List Task) : List Nat :=
  (List.range tasks.length).filter positions

/-- The tasks at the positions, in order. -/
def tasksAt (positions : Nat → Prop) [DecidablePred positions] (tasks : List Task) : List Task :=
  (rowsAt positions tasks).filterMap (tasks[·]?)

/-- The first task of every key that the function gives. -/
def firsts (keyOf : Task → String) (tasks : List Task) : List Task :=
  tasksAt (IsNew (tasks.map keyOf)) tasks

/-- The first task of every key. -/
def originals (tasks : List Task) : List Task :=
  firsts Task.duplicateKey tasks

/-- The tasks with the key of an earlier task. -/
def repetitions (tasks : List Task) : List Task :=
  tasksAt (fun i => ¬ IsNew (tasks.map Task.duplicateKey) i) tasks

variable {tasks : List Task} {keyOf : Task → String}

theorem isNew_append {keys : List String} {i : Nat} (h : i < keys.length) (later : List String) :
  IsNew (keys ++ later) i ↔ IsNew keys i
  := by
  apply forall₂_congr
  intro j hj
  rw [List.getElem?_append_left h, List.getElem?_append_left (Nat.lt_trans hj h)]

theorem isNew_length {keys : List String} {key : String} :
  IsNew (keys ++ [key]) keys.length ↔ key ∉ keys
  := by
  rw [IsNew, List.getElem?_concat_length, List.mem_iff_getElem?, not_exists]
  constructor
  · intro h i hi
    have hlt : i < keys.length := (List.getElem?_eq_some_iff.mp hi).1
    apply h i hlt
    rw [List.getElem?_append_left hlt, hi]
  · intro h i hi
    rw [List.getElem?_append_left hi]
    apply h

/-- A key is new at the first position that has it. -/
theorem exists_isNew (keys : List String) (i : Nat) :
  ∃ j ≤ i, IsNew keys j ∧ keys[j]? = keys[i]?
  := by
  have hexists : ∃ j, keys[j]? = keys[i]? := ⟨i, rfl⟩
  have hfound := Nat.find_spec hexists
  use Nat.find hexists, Nat.find_min' hexists rfl
  refine ⟨?_, hfound⟩
  intro k hk
  rw [hfound]
  apply Nat.find_min hexists hk

/-! ### Positions -/

section

variable {positions : Nat → Prop} [DecidablePred positions]

theorem mem_rowsAt {i : Nat} :
  i ∈ rowsAt positions tasks ↔ i < tasks.length ∧ positions i
  := by
  simp [rowsAt]

theorem pairwise_rowsAt :
  (rowsAt positions tasks).Pairwise (· < ·)
  := List.pairwise_lt_range.filter _

/-- At every one of the positions there is a task. -/
theorem map_some_tasksAt :
  (tasksAt positions tasks).map some = (rowsAt positions tasks).map (tasks[·]?)
  := by
  rw [tasksAt, List.map_filterMap, ← List.filterMap_eq_map]
  apply List.filterMap_congr
  intro i hi
  simp [List.getElem?_eq_getElem (mem_rowsAt.mp hi).1]

end

/-! ### Tasks at the end -/

/-- A task at the end of a list is taken last. -/
theorem tasksAt_concat {positions positions' : Nat → Prop} [DecidablePred positions]
    [DecidablePred positions'] (h : ∀ i < tasks.length, (positions' i ↔ positions i)) (t : Task) :
  tasksAt positions' (tasks ++ [t])
    = tasksAt positions tasks ++ if positions' tasks.length then [t] else []
  := by
  have hfront : (List.range tasks.length).filter positions' = rowsAt positions tasks := by
    apply List.filter_congr
    intro i hi
    rw [List.mem_range] at hi
    simp only [h i hi]
  have htasks : (rowsAt positions tasks).filterMap ((tasks ++ [t])[·]?)
      = tasksAt positions tasks := by
    apply List.filterMap_congr
    intro i hi
    apply List.getElem?_append_left (mem_rowsAt.mp hi).1
  rw [tasksAt, rowsAt, List.length_append, List.length_singleton, List.range_succ,
    List.filter_append, List.filterMap_append, hfront, htasks]
  congr 1
  split
  · next hlast => simp [hlast]
  · next hlast => simp [hlast]

/-- A task at the end does not change which keys before it are new. -/
theorem isNew_map_concat (keyOf : Task → String) (tasks : List Task) (t : Task) :
  (∀ i < tasks.length, (IsNew ((tasks ++ [t]).map keyOf) i ↔ IsNew (tasks.map keyOf) i))
    ∧ (IsNew ((tasks ++ [t]).map keyOf) tasks.length ↔ keyOf t ∉ tasks.map keyOf)
  := by
  rw [List.map_append, List.map_singleton]
  constructor
  · intro i hi
    apply isNew_append (by rwa [List.length_map])
  · have hlast : IsNew (tasks.map keyOf ++ [keyOf t]) _ ↔ keyOf t ∉ tasks.map keyOf := isNew_length
    rw [List.length_map] at hlast
    exact hlast

theorem firsts_concat (keyOf : Task → String) (tasks : List Task) (t : Task) :
  firsts keyOf (tasks ++ [t])
    = firsts keyOf tasks ++ if keyOf t ∈ tasks.map keyOf then [] else [t]
  := by
  obtain ⟨hkeys, hlast⟩ := isNew_map_concat keyOf tasks t
  rw [firsts, tasksAt_concat hkeys, ← firsts]
  simp only [hlast, ite_not]

theorem repetitions_concat (tasks : List Task) (t : Task) :
  repetitions (tasks ++ [t])
    = repetitions tasks ++ if t.duplicateKey ∈ tasks.map Task.duplicateKey then [t] else []
  := by
  obtain ⟨hkeys, hlast⟩ := isNew_map_concat Task.duplicateKey tasks t
  rw [repetitions, tasksAt_concat fun i hi => not_congr (hkeys i hi), ← repetitions]
  simp only [hlast, not_not]

/-! ### The keys of the first tasks -/

theorem mem_of_mem_tasksAt {positions : Nat → Prop} [DecidablePred positions] {t : Task}
    (h : t ∈ tasksAt positions tasks) :
  t ∈ tasks
  := by
  obtain ⟨i, -, hi⟩ := List.mem_filterMap.mp h
  apply List.mem_of_getElem? hi

/-- The first tasks have all keys of the list. -/
theorem mem_map_firsts {key : String} :
  key ∈ (firsts keyOf tasks).map keyOf ↔ key ∈ tasks.map keyOf
  := by
  induction tasks using List.reverseRecOn with
  | nil => rfl
  | append_singleton tasks t ih =>
    rw [firsts_concat, List.map_append, List.map_append, List.mem_append, List.mem_append, ih]
    split
    · next hold =>
      constructor
      · simp_all
      · rintro (h | h)
        · left
          exact h
        · left
          rw [List.map_singleton, List.mem_singleton] at h
          rwa [h]
    · rfl

/-- The keys of the first tasks are in the order in which they are first seen. -/
theorem pairwise_map_firsts (keyOf : Task → String) (tasks : List Task) :
  ((firsts keyOf tasks).map keyOf).Pairwise fun key key' =>
    (tasks.map keyOf).idxOf key < (tasks.map keyOf).idxOf key'
  := by
  induction tasks using List.reverseRecOn with
  | nil => apply List.Pairwise.nil
  | append_singleton tasks t ih =>
    have hfront : ((firsts keyOf tasks).map keyOf).Pairwise fun key key' =>
        ((tasks ++ [t]).map keyOf).idxOf key < ((tasks ++ [t]).map keyOf).idxOf key' := by
      apply ih.imp_of_mem
      intro key key' hkey hkey' hlt
      rw [mem_map_firsts] at hkey hkey'
      rwa [List.map_append, List.idxOf_append_of_mem hkey, List.idxOf_append_of_mem hkey']
    rw [firsts_concat]
    split
    · rw [List.append_nil]
      exact hfront
    · next hnew =>
      have happend : (firsts keyOf tasks ++ [t]).map keyOf
          = (firsts keyOf tasks).map keyOf ++ [keyOf t] := List.map_append
      rw [happend, List.pairwise_append]
      refine ⟨hfront, List.pairwise_singleton _ _, ?_⟩
      intro key hkey key' hkey'
      rw [mem_map_firsts] at hkey
      rw [List.mem_singleton.mp hkey', List.map_append, List.idxOf_append_of_mem hkey,
        List.idxOf_append_of_notMem hnew]
      apply Nat.lt_add_right _ (List.idxOf_lt_length_of_mem hkey)

theorem nodup_map_firsts (keyOf : Task → String) (tasks : List Task) :
  ((firsts keyOf tasks).map keyOf).Nodup
  := by
  apply (pairwise_map_firsts keyOf tasks).imp
  rintro key _ hlt rfl
  apply Nat.lt_irrefl _ hlt

/-! ### Originals and repetitions -/

theorem originals_concat (tasks : List Task) (t : Task) :
  originals (tasks ++ [t])
    = originals tasks ++ if t.duplicateKey ∈ tasks.map Task.duplicateKey then [] else [t]
  := firsts_concat Task.duplicateKey tasks t

theorem nodup_originals (tasks : List Task) :
  ((originals tasks).map Task.duplicateKey).Nodup
  := nodup_map_firsts Task.duplicateKey tasks

theorem length_originals (tasks : List Task) :
  (originals tasks).length + (repetitions tasks).length = tasks.length
  := by
  induction tasks using List.reverseRecOn with
  | nil => rfl
  | append_singleton tasks t ih =>
    rw [originals_concat, repetitions_concat]
    simp only [List.length_append, List.length_singleton]
    split <;> simp <;> omega

/-- Of tasks with distinct keys none has the key of an earlier one. -/
theorem originals_of_nodup (h : (tasks.map Task.duplicateKey).Nodup) :
  originals tasks = tasks ∧ repetitions tasks = []
  := by
  induction tasks using List.reverseRecOn with
  | nil => exact ⟨rfl, rfl⟩
  | append_singleton tasks t ih =>
    rw [List.map_append, List.map_singleton] at h
    have hkey : t.duplicateKey ∉ tasks.map Task.duplicateKey := by
      intro hmem
      apply List.disjoint_of_nodup_append h hmem (List.mem_singleton_self _)
    obtain ⟨hfirst, hrest⟩ := ih h.of_append_left
    rw [originals_concat, repetitions_concat, if_neg hkey, if_neg hkey, hfirst, hrest]
    exact ⟨rfl, rfl⟩

end Agenda.Store
