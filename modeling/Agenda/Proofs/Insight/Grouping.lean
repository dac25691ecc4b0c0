import Agenda.Insight.Group
import Agenda.Proofs.Store.Originals
import Mathlib.Algebra.BigOperators.Group.Finset.Basic
import Mathlib.Algebra.GroupWithZero.Nat
import Mathlib.Tactic.Use

/-!
# Groups of a list

`Groups key list groups` says that the groups divide the list: their keys are distinct, every
task has the key of one of them, and a group consists of the tasks with its key, in the order
of the list.  `groups_collect` says this of the groups that `Group.collect` makes, and
`map_first_collect` that there is one for each task with a new key, in the order of these tasks.
-/

namespace Agenda.Insight

variable {keyOf : Task → String} {list : List Task} {groups : List Group} {key : String}
  {t : Task}

/-- The groups divide the list by the keys of its tasks. -/
structure Groups (keyOf : Task → String) (list : List Task) (groups : List Group) : Prop where
  nodup : (groups.map Group.key).Nodup
  covers : ∀ t ∈ list, keyOf t ∈ groups.map Group.key
  tasks_eq : ∀ g ∈ groups, g.tasks = list.filter (keyOf · == g.key)

namespace Group

/-- A new key comes after the keys that are there. -/
theorem map_key_insert (key : String) (t : Task) (groups : List Group) :
  (insert key t groups).map Group.key =
    if key ∈ groups.map Group.key then groups.map Group.key
    else groups.map Group.key ++ [key]
  := by
  induction groups with
  | nil => simp [insert]
  | cons g groups ih =>
    rw [insert]
    by_cases heq : g.key = key
    · simp [heq]
    · rw [if_neg heq, List.map_cons, List.map_cons, ih]
      by_cases hmem : key ∈ groups.map Group.key
      · rw [if_pos hmem, if_pos (List.mem_cons_of_mem _ hmem)]
      · rw [if_neg hmem, if_neg (by simp_all [eq_comm]), List.cons_append]

/-- What holds of the groups after one more task: it holds of those with other keys, of the
group that the task joins, or of the one that it starts. -/
theorem forall_mem_insert {P : Group → Prop} (hnodup : (groups.map Group.key).Nodup)
    (other : ∀ g ∈ groups, g.key ≠ key → P g)
    (join : ∀ g ∈ groups, g.key = key → P { g with others := g.others ++ [t] })
    (start : key ∉ groups.map Group.key → P ⟨key, t, []⟩) :
  ∀ g ∈ insert key t groups, P g
  := by
  induction groups with
  | nil =>
    intro g hg
    rw [insert, List.mem_singleton] at hg
    rw [hg]
    apply start List.not_mem_nil
  | cons g groups ih =>
    rw [List.map_cons, List.nodup_cons] at hnodup
    obtain ⟨hfresh, hnodup⟩ := hnodup
    intro g' hg'
    rw [insert] at hg'
    split at hg'
    · next heq =>
      rcases List.mem_cons.mp hg' with rfl | hmem
      · apply join g List.mem_cons_self heq
      · apply other g' (List.mem_cons_of_mem g hmem)
        intro heq'
        apply hfresh
        rw [heq, ← heq']
        apply List.mem_map_of_mem hmem
    · next hne =>
      rcases List.mem_cons.mp hg' with rfl | hmem
      · apply other g' List.mem_cons_self hne
      · apply ih hnodup _ _ _ g' hmem
        · intro g' hmem
          apply other g' (List.mem_cons_of_mem g hmem)
        · intro g' hmem
          apply join g' (List.mem_cons_of_mem g hmem)
        · intro hkey
          apply start
          simp_all [eq_comm]

end Group

/-- The groups still divide the list after one more task. -/
theorem Groups.insert (h : Groups keyOf list groups) (t : Task) :
  Groups keyOf (list ++ [t]) (Group.insert (keyOf t) t groups)
  := by
  constructor
  · rw [Group.map_key_insert]
    split
    · apply h.nodup
    · next hfresh =>
      apply List.nodup_append.mpr
      use h.nodup
      simp_all [eq_comm]
  · intro u hu
    rw [Group.map_key_insert]
    rcases List.mem_append.mp hu with hu | hu
    · have := h.covers u hu
      split
      · apply this
      · apply List.mem_append_left _ this
    · rw [List.mem_singleton.mp hu]
      split
      · next hmem => apply hmem
      · apply List.mem_append_right _ List.mem_cons_self
  · apply Group.forall_mem_insert (P := fun g => g.tasks = (list ++ [t]).filter (keyOf · == g.key))
      h.nodup
    · intro g hg hne
      rw [h.tasks_eq g hg]
      simp [List.filter_append, Ne.symm hne]
    · intro g hg heq
      have htasks := h.tasks_eq g hg
      rw [Group.tasks, heq] at htasks
      simp [Group.tasks, List.filter_append, ← htasks, heq]
    · intro hfresh
      have hnone : list.filter (keyOf · == keyOf t) = [] := by
        rw [List.filter_eq_nil_iff]
        intro u hu heq
        apply hfresh
        rw [← eq_of_beq heq]
        apply h.covers u hu
      simp [Group.tasks, List.filter_append, hnone]

theorem collect_concat (keyOf : Task → String) (list : List Task) (t : Task) :
  Group.collect keyOf (list ++ [t]) = Group.insert (keyOf t) t (Group.collect keyOf list)
  := by
  simp [Group.collect]

theorem groups_collect (keyOf : Task → String) (list : List Task) :
  Groups keyOf list (Group.collect keyOf list)
  := by
  induction list using List.reverseRecOn with
  | nil => constructor <;> simp [Group.collect]
  | append_singleton list t ih =>
    rw [collect_concat]
    apply ih.insert

/-! ### Groups and first tasks -/

theorem Group.size_pos (g : Group) :
  0 < g.size
  := Nat.succ_pos _

/-- A group that a task joins keeps its first task, and a new group comes last. -/
theorem Group.map_first_insert (key : String) (t : Task) (groups : List Group) :
  (insert key t groups).map Group.first =
    groups.map Group.first ++ if key ∈ groups.map Group.key then [] else [t]
  := by
  induction groups with
  | nil => simp [insert]
  | cons g groups ih =>
    rw [insert]
    by_cases heq : g.key = key
    · simp [heq]
    · rw [if_neg heq, List.map_cons, List.map_cons, List.map_cons, ih, List.cons_append]
      have hmem : key ∈ g.key :: groups.map Group.key ↔ key ∈ groups.map Group.key := by
        simp [Ne.symm heq]
      simp only [hmem]

namespace Groups

variable (h : Groups keyOf list groups)

include h

theorem first_mem_filter {g : Group} (hg : g ∈ groups) :
  g.first ∈ list.filter (keyOf · == g.key)
  := by
  rw [← h.tasks_eq g hg]
  apply List.mem_cons_self

theorem keyOf_first {g : Group} (hg : g ∈ groups) :
  keyOf g.first = g.key
  := eq_of_beq (List.mem_filter.mp (h.first_mem_filter hg)).2

/-- The groups have the keys of the list. -/
theorem mem_map_key :
  key ∈ groups.map Group.key ↔ key ∈ list.map keyOf
  := by
  constructor
  · intro hkey
    obtain ⟨g, hg, rfl⟩ := List.mem_map.mp hkey
    rw [← h.keyOf_first hg]
    apply List.mem_map_of_mem (List.mem_filter.mp (h.first_mem_filter hg)).1
  · intro hkey
    obtain ⟨t, ht, rfl⟩ := List.mem_map.mp hkey
    apply h.covers t ht

theorem size_eq {g : Group} (hg : g ∈ groups) :
  g.size = (list.map keyOf).count g.key
  := by
  rw [Group.size, h.tasks_eq g hg, List.count_eq_countP, List.countP_map,
    ← List.countP_eq_length_filter]
  rfl

/-- Every task of a part of the list is in one group. -/
theorem sum_count {part : List Task} (hpart : part ⊆ list) :
  (groups.map fun g => (part.map keyOf).count g.key).sum = part.length
  := by
  have hkeys : groups.map (fun g => (part.map keyOf).count g.key)
      = (groups.map Group.key).map (part.map keyOf).count := by
    rw [List.map_map]
    rfl
  have hcovers : ∀ key ∈ (part.map keyOf : Multiset String),
      key ∈ (groups.map Group.key).toFinset := by
    intro key hkey
    rw [List.mem_toFinset, h.mem_map_key]
    apply List.map_subset keyOf hpart hkey
  rw [hkeys, ← List.sum_toFinset _ h.nodup]
  have hsum := Multiset.sum_count_eq_card hcovers
  simpa using hsum

end Groups

/-- The groups are in the order of their first tasks, and these are the tasks with new keys. -/
theorem map_first_collect (keyOf : Task → String) (list : List Task) :
  (Group.collect keyOf list).map Group.first = Store.firsts keyOf list
  := by
  induction list using List.reverseRecOn with
  | nil => rfl
  | append_singleton list t ih =>
    simp only [collect_concat, Group.map_first_insert, Store.firsts_concat, ih,
      (groups_collect keyOf list).mem_map_key]

end Agenda.Insight
