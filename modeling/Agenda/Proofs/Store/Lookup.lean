import Agenda.Cli.Run
import Agenda.Proofs.Text.Front
import Mathlib.Data.List.Nodup

/-!
# Looking up a task by its own identifier

Identifiers are compared in small letters when a task is looked up, and exactly when it is
changed.  The identifier of a task therefore designates the first task whose identifier has
the same small letters.  `resolve_own_id` says so, and that this is the task itself just when
no task before it has them.  In any list the identifier that is found is that of a task, which
can therefore be changed.
-/

namespace Agenda

namespace Text

/-- No character vanishes in small letters. -/
theorem lowerChar_ne_nil (c : Char) :
  lowerChar c ≠ []
  := by
  rw [lowerChar]
  split
  · apply List.cons_ne_nil
  · split
    · apply List.cons_ne_nil
    · split <;> apply List.cons_ne_nil

theorem lower_ne_empty {s : String} (h : s ≠ "") :
  lower s ≠ ""
  := by
  obtain ⟨c, rest, hs⟩ := List.exists_cons_of_ne_nil (String.toList_eq_nil_iff.not.mpr h)
  rw [lower, lowerChars, hs, lowerFrom]
  apply String.ofList_eq_empty_iff.not.mpr
  apply List.append_ne_nil_of_left_ne_nil
  split
  · apply List.cons_ne_nil
  · apply lowerChar_ne_nil

/-- A text without blanks is its own trim. -/
theorem trim_of_forall_not_isBlank {s : String} (h : ∀ c ∈ s.toList, isBlank c = false) :
  trim s = s
  := by
  rw [trim, trimChars_of_isFlush, String.ofList_toList]
  · intro c hc
    apply h c (List.mem_of_mem_head? hc)
  · intro c hc
    apply h c (List.mem_reverse.mp (List.mem_of_mem_head? hc))

end Text

namespace Store

/-- The identifiers of the tasks are non-empty texts without blanks, and no two tasks have the
same. -/
structure IsIdentified (tasks : List Task) : Prop where
  nodup : (tasks.map (·.id)).Nodup
  ne_empty : ∀ t ∈ tasks, t.id ≠ ""
  not_isBlank : ∀ t ∈ tasks, ∀ c ∈ t.id.toList, Text.isBlank c = false

/-- The position is that of the first task whose identifier has these small letters. -/
structure IsFirst (tasks : List Task) (key : String) (i : Nat) (t : Task) : Prop where
  task : tasks[i]? = some t
  lower_id : Text.lower t.id = key
  earlier : ∀ j < i, ∀ u, tasks[j]? = some u → Text.lower u.id ≠ key

variable {tasks : List Task} {i : Nat} {t : Task}

theorem exists_isFirst (ht : tasks[i]? = some t) :
  ∃ j ≤ i, ∃ u, IsFirst tasks (Text.lower t.id) j u
  := by
  induction i using Nat.strong_induction_on generalizing t with
  | _ i ih =>
    by_cases hfirst : ∀ j < i, ∀ u, tasks[j]? = some u → Text.lower u.id ≠ Text.lower t.id
    · exact ⟨i, le_rfl, t, ht, rfl, hfirst⟩
    · push Not at hfirst
      obtain ⟨j, hj, u, hu, hlower⟩ := hfirst
      obtain ⟨k, hk, v, hv⟩ := ih j hj hu
      rw [hlower] at hv
      exact ⟨k, le_trans hk hj.le, v, hv⟩

theorem IsFirst.find?_eq {key : String} (h : IsFirst tasks key i t) :
  tasks.find? (Text.lower ·.id == key) = some t
  := by
  obtain ⟨hi, rfl⟩ := List.getElem?_eq_some_iff.mp h.task
  apply List.find?_eq_some_iff_getElem.mpr
  refine ⟨beq_iff_eq.mpr h.lower_id, i, hi, rfl, ?_⟩
  intro j hj
  have hne := h.earlier j hj _ (List.getElem?_eq_getElem (lt_trans hj hi))
  simpa using hne

/-- A task is found by its identifier when no earlier one has the same. -/
theorem position_eq_of_forall_ne (ht : tasks[i]? = some t)
    (h : ∀ j < i, ∀ u, tasks[j]? = some u → u.id ≠ t.id) :
  position tasks t.id = .ok i
  := by
  obtain ⟨hi, rfl⟩ := List.getElem?_eq_some_iff.mp ht
  have hfound : tasks.findIdx? (·.id == tasks[i].id) = some i := by
    apply List.findIdx?_eq_some_iff_getElem.mpr
    refine ⟨hi, beq_self_eq_true _, ?_⟩
    intro j hj
    simpa using h j hj _ (List.getElem?_eq_getElem (lt_trans hj hi))
  rw [position, hfound]

/-- The task at the position is removed. -/
theorem delete_of_position (h : position tasks t.id = .ok i) (ht : tasks[i]? = some t) :
  delete t.id tasks = .ok (t, tasks.eraseIdx i)
  := by
  simp [delete, h, bind, Except.bind, ht]

/-- The task at the position is marked. -/
theorem mark_of_position (h : position tasks t.id = .ok i) (ht : tasks[i]? = some t)
    (time : Option String) :
  mark t.id time tasks = .ok (t.mark time, tasks.set i (t.mark time))
  := by
  simp [mark, Request.taking, marking, h, bind, Except.bind, Except.map, ht]

namespace IsIdentified

variable (h : IsIdentified tasks)

include h

theorem idKey_eq (ht : tasks[i]? = some t) :
  idKey t.id = Text.lower t.id
  := by
  rw [idKey, Text.trim_of_forall_not_isBlank (h.not_isBlank t (List.mem_of_getElem? ht))]

/-- The identifier of a task designates the first one that is written with the same small
letters. -/
theorem resolve_eq (ht : tasks[i]? = some t) {j : Nat} {u : Task}
    (hu : IsFirst tasks (Text.lower t.id) j u) :
  resolve tasks t.id = .ok u.id
  := by
  have hne : (Text.lower t.id).isEmpty = false := by
    have hid := h.ne_empty t (List.mem_of_getElem? ht)
    simpa using Text.lower_ne_empty hid
  rw [resolve, h.idKey_eq ht, hu.find?_eq, hne]
  rfl

/-- A task is where its identifier is. -/
theorem position_eq (ht : tasks[i]? = some t) :
  position tasks t.id = .ok i
  := by
  apply position_eq_of_forall_ne ht
  intro j hj u hu
  obtain ⟨hi, rfl⟩ := List.getElem?_eq_some_iff.mp ht
  obtain ⟨hlt, rfl⟩ := List.getElem?_eq_some_iff.mp hu
  have hdistinct := List.pairwise_iff_getElem.mp (List.pairwise_map.mp h.nodup)
  apply hdistinct j i hlt hi hj

theorem delete_eq (ht : tasks[i]? = some t) :
  delete t.id tasks = .ok (t, tasks.eraseIdx i)
  := delete_of_position (h.position_eq ht) ht

theorem mark_eq (ht : tasks[i]? = some t) (time : Option String) :
  mark t.id time tasks = .ok (t.mark time, tasks.set i (t.mark time))
  := mark_of_position (h.position_eq ht) ht time

theorem checkId_eq (ht : tasks[i]? = some t) :
  Cli.checkId t.id = .ok ()
  := by
  have hid := h.ne_empty t (List.mem_of_getElem? ht)
  have hblank := h.not_isBlank t (List.mem_of_getElem? ht)
  have hany : t.id.toList.any Text.isBlank = false := by
    rw [List.any_eq_false]
    intro c hc
    rw [hblank c hc]
    apply Bool.false_ne_true
  simp [Cli.checkId, Cli.isBlankText, Text.trim_of_forall_not_isBlank hblank, hid, hany,
    Cli.require, bind, Except.bind]

end IsIdentified

/-- The identifier of a task designates the task itself just when no earlier identifier differs
from it in letter case only.  In any case the first task with such an identifier is designated,
and this is the one that a command with the identifier goes on with and then changes. -/
theorem resolve_own_id (h : IsIdentified tasks) (ht : tasks[i]? = some t) :
  (resolve tasks t.id = .ok t.id ↔
      ∀ j < i, ∀ u, tasks[j]? = some u → Text.lower u.id ≠ Text.lower t.id)
    ∧ ∃ j u, IsFirst tasks (Text.lower t.id) j u
      ∧ resolve tasks t.id = .ok u.id
      ∧ (∀ {m : Type → Type} [Monad m] (s : Cli.Session m) (continued : String → m Cli.Outcome),
        s.store.tasks = tasks → s.withTask t.id continued = continued u.id)
      ∧ delete u.id tasks = .ok (u, tasks.eraseIdx j)
      ∧ ∀ time, mark u.id time tasks = .ok (u.mark time, tasks.set j (u.mark time))
  := by
  obtain ⟨j, hj, u, hu⟩ := exists_isFirst ht
  have hresolve := h.resolve_eq ht hu
  constructor
  · rw [hresolve]
    constructor
    · intro hsame
      have hi : position tasks u.id = .ok i := by
        rw [Except.ok.inj hsame]
        apply h.position_eq ht
      rw [h.position_eq hu.task] at hi
      obtain rfl := Except.ok.inj hi
      apply hu.earlier
    · intro hearlier
      obtain rfl | hlt := hj.eq_or_lt
      · have htask := hu.task
        rw [ht] at htask
        rw [Option.some.inj htask]
      · apply absurd hu.lower_id (hearlier j hlt u hu.task)
  · refine ⟨j, u, hu, hresolve, ?_, h.delete_eq hu.task, h.mark_eq hu.task⟩
    rintro m _ s continued rfl
    simp only [Cli.Session.withTask, Cli.Session.checked, h.checkId_eq ht, hresolve]

/-! ### What is designated is there -/

/-- The identifier that is found is that of a task. -/
theorem exists_task_of_resolve {id found : String} (h : resolve tasks id = .ok found) :
  ∃ t ∈ tasks, t.id = found
  := by
  simp only [resolve] at h
  split at h
  · cases h
  · split at h
    · next t ht => exact ⟨t, List.mem_of_find?_eq_some ht, Except.ok.inj h⟩
    · split at h
      · cases h
      · next t ht =>
        have hmem : t ∈ candidates tasks (idKey id) := by
          rw [ht]
          apply List.mem_singleton_self
        exact ⟨t, (List.mem_filter.mp hmem).1, Except.ok.inj h⟩
      · cases h

/-- A task that was found has a position. -/
theorem exists_position_of_resolve {id found : String} (h : resolve tasks id = .ok found) :
  ∃ i u, position tasks found = .ok i ∧ tasks[i]? = some u
  := by
  obtain ⟨t, ht, rfl⟩ := exists_task_of_resolve h
  rw [position]
  cases hfound : tasks.findIdx? (·.id == t.id) with
  | none =>
    have hnone := List.findIdx?_eq_none_iff.mp hfound t ht
    simp at hnone
  | some i =>
    obtain ⟨hi, -⟩ := List.findIdx?_eq_some_iff_getElem.mp hfound
    exact ⟨i, tasks[i], rfl, List.getElem?_eq_getElem hi⟩

/-- A task that was found can be marked. -/
theorem mark_of_resolve {id found : String} (h : resolve tasks id = .ok found)
    (time : Option String) :
  ∃ result, mark found time tasks = .ok result
  := by
  obtain ⟨i, u, hposition, hu⟩ := exists_position_of_resolve h
  simp only [mark, Request.taking, marking, hposition, bind, Except.bind, hu]
  exact ⟨_, rfl⟩

/-- A task that was found can be removed. -/
theorem delete_of_resolve {id found : String} (h : resolve tasks id = .ok found) :
  ∃ result, delete found tasks = .ok result
  := by
  obtain ⟨i, u, hposition, hu⟩ := exists_position_of_resolve h
  simp only [delete, hposition, bind, Except.bind, hu]
  exact ⟨_, rfl⟩

/-! ### Examples -/

/-- Two open tasks whose identifiers differ in letter case only. -/
def smallAndCapital : List Task :=
  [newTask ⟨"a", "2024-05-01T00:00:00.000Z"⟩ "First" "Work",
    newTask ⟨"A", "2024-05-01T00:00:00.000Z"⟩ "Second" "Work"]

theorem isIdentified_smallAndCapital :
  IsIdentified smallAndCapital
  := by
  constructor
  · decide
  · decide
  · intro t ht c hc
    have hall : smallAndCapital.all (·.id.toList.all (!Text.isBlank ·)) = true := rfl
    simpa using List.all_eq_true.mp (List.all_eq_true.mp hall t ht) c hc

/-- The identifier of the first task designates it. -/
theorem resolve_own_id_smallAndCapital :
  IsIdentified smallAndCapital ∧ resolve smallAndCapital "a" = .ok "a"
  := by
  use isIdentified_smallAndCapital
  have hfirst : smallAndCapital[0]? = some _ := rfl
  apply (resolve_own_id isIdentified_smallAndCapital hfirst).1.mpr
  intro j hj
  contradiction

/-- The identifier of the second task designates the first one, which is removed in its
place. -/
theorem resolve_capital :
  ∃ small capital, smallAndCapital = [small, capital]
    ∧ IsIdentified smallAndCapital
    ∧ resolve smallAndCapital capital.id = .ok small.id
    ∧ delete small.id smallAndCapital = .ok (small, [capital])
  := by
  refine ⟨_, _, rfl, isIdentified_smallAndCapital, ?_, ?_⟩ <;> rfl

end Store

end Agenda
