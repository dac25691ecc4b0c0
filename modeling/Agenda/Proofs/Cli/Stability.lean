import Agenda.Proofs.Cli.Designation

/-!
# Beginnings of identifiers that go on working

A text that designates a task goes on doing so when more of the identifier is given, and when other
tasks are removed.  When a task is added, the text may become ambiguous, and it designates the new
task only if it is the whole identifier of it.  So it never comes to designate another task without
notice.
-/

namespace Agenda.Store

variable {tasks front back : List Task} {t u : Task} {id part : String} {i : Nat}

/-! ### A task between others -/

theorem exists_append_cons (h : tasks[i]? = some t) :
  ∃ front back, tasks = front ++ t :: back ∧ front.length = i
  := by
  obtain ⟨hi, rfl⟩ := List.getElem?_eq_some_iff.mp h
  refine ⟨tasks.take i, tasks.drop (i + 1), ?_, List.length_take_of_le hi.le⟩
  rw [← List.drop_eq_getElem_cons hi, List.take_append_drop]

/-- The other tasks are at other positions. -/
theorem exists_ne_length (h : u ∈ front ++ back) (t : Task) :
  ∃ j, j ≠ front.length ∧ (front ++ t :: back)[j]? = some u
  := by
  rcases List.mem_append.mp h with h | h
  · obtain ⟨j, hj, rfl⟩ := List.getElem_of_mem h
    refine ⟨j, hj.ne, ?_⟩
    rw [List.getElem?_append_left hj, List.getElem?_eq_getElem hj]
  · obtain ⟨j, hj⟩ := List.getElem?_of_mem h
    refine ⟨front.length + (j + 1), by omega, ?_⟩
    rw [List.getElem?_append_right (Nat.le_add_right _ _), Nat.add_sub_cancel_left,
      List.getElem?_cons_succ, hj]

/-- None of the tasks has the text as its identifier when only one begins with it and has more. -/
theorem lower_ne_of_forall_not (hlower : Text.lower t.id ≠ Text.lower part)
    (hothers : ∀ u ∈ front ++ back, ¬ BeginsWith part u) :
  ∀ u ∈ front ++ t :: back, Text.lower u.id ≠ Text.lower part
  := by
  intro u hu hsame
  rcases List.mem_append.mp hu with hu | hu
  · exact hothers u (List.mem_append_left back hu) (beginsWith_of_lower_eq hsame)
  · rcases List.mem_cons.mp hu with rfl | hu
    · exact hlower hsame
    · exact hothers u (List.mem_append_right front hu) (beginsWith_of_lower_eq hsame)

/-- A task between others is designated by its whole identifier if none before it has the same, and
by a beginning of it if no other one begins so. -/
theorem designates_append_cons_iff (front : List Task) :
  Designates (front ++ t :: back) part front.length t ↔
    (Text.lower t.id = Text.lower part ∧ ∀ u ∈ front, Text.lower u.id ≠ Text.lower part)
    ∨ (Text.lower t.id ≠ Text.lower part ∧ BeginsWith part t
      ∧ ∀ u ∈ front ++ back, ¬ BeginsWith part u)
  := by
  have hposition : (front ++ t :: back)[front.length]? = some t := by
    simp
  constructor
  · intro h
    cases h with
    | whole h =>
      left
      refine ⟨h.lower_id, ?_⟩
      intro u hu
      obtain ⟨j, hj, rfl⟩ := List.getElem_of_mem hu
      apply h.earlier j hj
      rw [List.getElem?_append_left hj, List.getElem?_eq_getElem hj]
    | beginning hwhole ht hbegins honly =>
      right
      refine ⟨hwhole t (List.mem_of_getElem? ht), hbegins, ?_⟩
      intro u hu hbegins
      obtain ⟨j, hne, hget⟩ := exists_ne_length hu t
      apply hne (honly j u hget hbegins)
  · rintro (⟨hlower, hfront⟩ | ⟨hlower, hbegins, hothers⟩)
    · apply Designates.whole
      refine ⟨hposition, hlower, ?_⟩
      intro j hj u hu
      rw [List.getElem?_append_left hj] at hu
      apply hfront u (List.mem_of_getElem? hu)
    · apply Designates.beginning (lower_ne_of_forall_not hlower hothers) hposition hbegins
      intro j u hu hbegins
      apply eq_length_of_forall_not hothers hu hbegins

/-- If no other task begins with the text, there is one that does. -/
theorem countP_beginsWith (hbegins : BeginsWith part t)
    (hothers : ∀ u ∈ front ++ back, ¬ BeginsWith part u) :
  (front ++ t :: back).countP (BeginsWith part) = 1
  := by
  have hzero : (front ++ back).countP (BeginsWith part) = 0 := by
    apply List.countP_eq_zero.mpr
    simpa using hothers
  rw [List.countP_append] at hzero
  rw [List.countP_append, List.countP_cons_of_pos (by simpa using hbegins)]
  omega

/-! ### Tasks that are found -/

/-- The text designates the task at the position, and its identifier is found. -/
structure Finds (tasks : List Task) (id : String) (i : Nat) (t : Task) : Prop where
  designates : Designates tasks (Text.trim id) i t
  resolve_eq : resolve tasks id = .ok t.id

theorem trim_ne_empty (h : idKey id ≠ "") :
  Text.trim id ≠ ""
  := by
  intro htrim
  rw [idKey, htrim] at h
  apply h rfl

/-- The task that is designated is found. -/
theorem finds_of_designates (hne : idKey id ≠ "") (h : Designates tasks (Text.trim id) i t) :
  Finds tasks id i t
  := by
  refine ⟨h, ?_⟩
  obtain ⟨j, u, hu, hresolve⟩ | ⟨hnone, -⟩ | ⟨hwhole, hmany, -⟩ :=
    resolve_cases rfl (trim_ne_empty hne) tasks
  · obtain rfl := h.unique hu
    have htask := h.getElem?_eq
    rw [hu.getElem?_eq] at htask
    rw [hresolve, Option.some.inj htask]
  · apply absurd h.beginsWith (hnone t (List.mem_of_getElem? h.getElem?_eq))
  · obtain ⟨front, back, rfl, rfl⟩ := exists_append_cons h.getElem?_eq
    obtain ⟨hlower, -⟩ | ⟨-, hbegins, hothers⟩ := (designates_append_cons_iff _).mp h
    · apply absurd hlower (hwhole t (by simp))
    · rw [countP_beginsWith hbegins hothers] at hmany
      omega

/-- What is found is the identifier of the task that is designated. -/
theorem exists_finds {found : String} (h : resolve tasks id = .ok found) :
  idKey id ≠ "" ∧ ∃ i t, t.id = found ∧ Finds tasks id i t
  := by
  have hne : idKey id ≠ "" := by
    intro hempty
    rw [resolve, hempty] at h
    cases h
  use hne
  obtain ⟨i, t, ht, hresolve⟩ | ⟨-, hresolve⟩ | ⟨-, -, hresolve⟩ :=
    resolve_cases rfl (trim_ne_empty hne) tasks
  · rw [hresolve] at h
    exact ⟨i, t, Except.ok.inj h, ht, hresolve⟩
  · rw [hresolve] at h
    cases h
  · rw [hresolve] at h
    cases h

/-! ### Other texts and other lists -/

/-- More of the identifier designates the same task. -/
theorem Designates.extend {longer : String} (h : Designates tasks part i t)
    (hextends : (Text.lower part).toList <+: (Text.lower longer).toList)
    (hbegins : BeginsWith longer t) :
  Designates tasks longer i t
  := by
  obtain ⟨front, back, rfl, rfl⟩ := exists_append_cons h.getElem?_eq
  apply (designates_append_cons_iff _).mpr
  obtain ⟨hlower, hfront⟩ | ⟨hlower, -, hothers⟩ := (designates_append_cons_iff _).mp h
  · have hsame : Text.lower longer = Text.lower part := by
      rw [BeginsWith, hlower] at hbegins
      apply String.toList_inj.mp
      apply hbegins.eq_of_length_le hextends.length_le
    left
    rw [hsame]
    exact ⟨hlower, hfront⟩
  · have hnone : ∀ u ∈ front ++ back, ¬ BeginsWith longer u :=
      fun u hu hlonger => hothers u hu (hextends.trans hlonger)
    by_cases heq : Text.lower t.id = Text.lower longer
    · left
      refine ⟨heq, ?_⟩
      intro u hu hsame
      apply hnone u (List.mem_append_left back hu) (beginsWith_of_lower_eq hsame)
    · right
      exact ⟨heq, hbegins, hnone⟩

/-- A task stays designated when others are removed. -/
theorem Designates.remove {front' back' : List Task}
    (h : Designates (front ++ t :: back) part front.length t) (hfront : front'.Sublist front)
    (hback : back'.Sublist back) :
  Designates (front' ++ t :: back') part front'.length t
  := by
  apply (designates_append_cons_iff _).mpr
  obtain ⟨hlower, hearlier⟩ | ⟨hlower, hbegins, hothers⟩ := (designates_append_cons_iff _).mp h
  · left
    exact ⟨hlower, fun u hu => hearlier u (hfront.subset hu)⟩
  · right
    exact ⟨hlower, hbegins, fun u hu => hothers u ((hfront.append hback).subset hu)⟩

/-- When a second task begins with the text, and none is the text, it becomes ambiguous. -/
theorem resolve_eq_ambiguous (hne : idKey id ≠ "") (hlower : Text.lower t.id ≠ idKey id)
    (hbegins : BeginsWith (Text.trim id) t)
    (hothers : ∀ v ∈ front ++ back, ¬ BeginsWith (Text.trim id) v)
    (hnew : Text.lower u.id ≠ idKey id) (hu : BeginsWith (Text.trim id) u) :
  resolve (u :: (front ++ t :: back)) id = .error (.ambiguousId id 2)
  := by
  have hcount : (u :: (front ++ t :: back)).countP (BeginsWith (Text.trim id)) = 2 := by
    rw [List.countP_cons_of_pos (by simpa using hu), countP_beginsWith hbegins hothers]
  have hwhole : ∀ v ∈ u :: (front ++ t :: back), Text.lower v.id ≠ idKey id :=
    List.forall_mem_cons.mpr ⟨hnew, lower_ne_of_forall_not hlower hothers⟩
  obtain ⟨j, v, hv, -⟩ | ⟨hnone, -⟩ | ⟨-, -, hresolve⟩ :=
    resolve_cases rfl (trim_ne_empty hne) (u :: (front ++ t :: back))
  · cases hv with
    | whole h => apply absurd h.lower_id (hwhole v (List.mem_of_getElem? h.task))
    | beginning _ _ _ honly =>
      have hfirst := honly 0 u rfl hu
      have hsecond := honly (front.length + 1) t (by simp) hbegins
      omega
  · apply absurd hu (hnone u List.mem_cons_self)
  · rw [hresolve, hcount]

/-- When a task is put in front, the designated one stays so, the text becomes ambiguous, or it is
the whole identifier of the new task. -/
theorem finds_cons_cases (hne : idKey id ≠ "")
    (h : Designates (front ++ t :: back) (Text.trim id) front.length t) (u : Task) :
  Finds (u :: (front ++ t :: back)) id (front.length + 1) t
  ∨ resolve (u :: (front ++ t :: back)) id = .error (.ambiguousId id 2)
  ∨ Finds (u :: (front ++ t :: back)) id 0 u ∧ Text.lower u.id = idKey id
  := by
  have hcons := @designates_append_cons_iff back t (Text.trim id) (u :: front)
  by_cases hnew : Text.lower u.id = idKey id
  · right
    right
    refine ⟨finds_of_designates hne ?_, hnew⟩
    apply (designates_append_cons_iff []).mpr
    left
    exact ⟨hnew, by simp⟩
  · obtain ⟨hlower, hearlier⟩ | ⟨hlower, hbegins, hothers⟩ := (designates_append_cons_iff _).mp h
    · left
      apply finds_of_designates hne
      apply hcons.mpr
      left
      exact ⟨hlower, List.forall_mem_cons.mpr ⟨hnew, hearlier⟩⟩
    · by_cases hu : BeginsWith (Text.trim id) u
      · right
        left
        apply resolve_eq_ambiguous hne hlower hbegins hothers hnew hu
      · left
        apply finds_of_designates hne
        apply hcons.mpr
        right
        exact ⟨hlower, hbegins, List.forall_mem_cons.mpr ⟨hu, hothers⟩⟩

/-- The task between the others is what the text finds, and what it goes on finding. -/
structure KeepsTarget (front : List Task) (t : Task) (back : List Task) (id : String) : Prop where
  found : Finds (front ++ t :: back) id front.length t
  /-- More of the identifier finds the same task. -/
  extended : ∀ longer, (idKey id).toList <+: (idKey longer).toList →
    (idKey longer).toList <+: (Text.lower t.id).toList →
      Finds (front ++ t :: back) longer front.length t
  /-- The task is found when any others are removed. -/
  removed : ∀ front' back' : List Task, front'.Sublist front → back'.Sublist back →
    Finds (front' ++ t :: back') id front'.length t
  /-- The task is found when another one is put in front, or the text is reported as ambiguous, or it
  finds the new task, whose identifier it then is. -/
  added : ∀ u, Finds (u :: (front ++ t :: back)) id (front.length + 1) t
    ∨ resolve (u :: (front ++ t :: back)) id = .error (.ambiguousId id 2)
    ∨ Finds (u :: (front ++ t :: back)) id 0 u ∧ Text.lower u.id = idKey id

/-- A text that finds a task keeps to it: for every list of tasks, whatever their identifiers are,
and every text that is resolved. -/
theorem target_kept {found : String} (h : resolve tasks id = .ok found) :
  ∃ front t back, tasks = front ++ t :: back ∧ t.id = found ∧ KeepsTarget front t back id
  := by
  obtain ⟨hne, i, t, hid, hfound⟩ := exists_finds h
  obtain ⟨front, back, rfl, rfl⟩ := exists_append_cons hfound.designates.getElem?_eq
  refine ⟨front, t, back, rfl, hid, hfound, ?_, ?_, ?_⟩
  · intro longer hextends hbegins
    have hlonger : idKey longer ≠ "" := by
      intro hempty
      rw [hempty] at hextends
      apply hne
      apply String.toList_eq_nil_iff.mp (List.prefix_nil.mp hextends)
    apply finds_of_designates hlonger (hfound.designates.extend hextends hbegins)
  · intro front' back' hfront hback
    apply finds_of_designates hne (hfound.designates.remove hfront hback)
  · apply finds_cons_cases hne hfound.designates

/-- Two tasks whose identifiers have the same beginning. -/
def similarTasks : List Task :=
  [newTask ⟨"abc1", "2024-05-01T00:00:00.000Z"⟩ "First" "Work",
    newTask ⟨"ABD1", "2024-05-01T00:00:00.000Z"⟩ "Second" "Work"]

/-- The second task is found by a beginning of its identifier, by more of it, and also when the
first task is removed. -/
theorem target_kept_similarTasks :
  resolve similarTasks " aBd " = .ok "ABD1" ∧ resolve similarTasks "abd1" = .ok "ABD1"
    ∧ ∃ t ∈ similarTasks, t.id = "ABD1" ∧ resolve [t] " aBd " = .ok "ABD1"
  := by
  have hfound : resolve similarTasks " aBd " = .ok "ABD1" := by decide +kernel
  obtain ⟨front, t, back, htasks, hid, hkeeps⟩ := target_kept hfound
  refine ⟨hfound, ?_, t, ?_, hid, ?_⟩
  · have hmore := hkeeps.extended "abd1" (by decide +kernel) (by rw [hid]; decide +kernel)
    rw [htasks, hmore.resolve_eq, hid]
  · rw [htasks]
    simp
  · have halone := hkeeps.removed [] [] (List.nil_sublist _) (List.nil_sublist _)
    rw [← hid]
    exact halone.resolve_eq

end Agenda.Store
