import Agenda.Proofs.Cli.Frame

/-!
# The task that is acted on

To mark or remove a task, its identifier is looked up twice: regardless of letter case to find a
task, and then exactly to find the position of that task.  In any list both lookups meet at the
same position, also when identifiers repeat, differ in letter case only or begin with one another.
`Designates` says which position this is.  The command acts on it and leaves all other tasks as
they were, or it is refused because no position is designated.
-/

namespace Agenda

open Store.Backend (folderStorage)

namespace Store

/-! ### Designated positions -/

/-- The identifier of the task begins with the text, regardless of letter case. -/
def BeginsWith (id : String) (t : Task) : Prop :=
  (Text.lower id).toList <+: (Text.lower t.id).toList

instance (id : String) : DecidablePred (BeginsWith id) :=
  fun t => inferInstanceAs (Decidable ((Text.lower id).toList <+: (Text.lower t.id).toList))

/-- The text designates the task at the position. -/
inductive Designates (tasks : List Task) (id : String) : Nat → Task → Prop
  /-- It is the first task whose identifier is the text, regardless of letter case. -/
  | whole {i : Nat} {t : Task} (h : IsFirst tasks (Text.lower id) i t) : Designates tasks id i t
  /-- There is no such task, and this is the only one whose identifier begins with the text. -/
  | beginning {i : Nat} {t : Task} (hwhole : ∀ u ∈ tasks, Text.lower u.id ≠ Text.lower id)
      (ht : tasks[i]? = some t) (hbegins : BeginsWith id t)
      (honly : ∀ j u, tasks[j]? = some u → BeginsWith id u → j = i) : Designates tasks id i t

variable {tasks : List Task} {id : String} {i j : Nat} {t u : Task}

theorem beginsWith_of_lower_eq (h : Text.lower t.id = Text.lower id) :
  BeginsWith id t
  := by
  simp [BeginsWith, h]

namespace Designates

theorem getElem?_eq (h : Designates tasks id i t) :
  tasks[i]? = some t
  := by
  cases h with
  | whole h => exact h.task
  | beginning hwhole ht hbegins honly => exact ht

theorem beginsWith (h : Designates tasks id i t) :
  BeginsWith id t
  := by
  cases h with
  | whole h => apply beginsWith_of_lower_eq h.lower_id
  | beginning hwhole ht hbegins honly => exact hbegins

/-- No earlier task has the same identifier. -/
theorem position_eq (h : Designates tasks id i t) :
  position tasks t.id = .ok i
  := by
  apply position_eq_of_forall_ne h.getElem?_eq
  intro j hj u hu hsame
  cases h with
  | whole h =>
    apply h.earlier j hj u hu
    rw [hsame, h.lower_id]
  | beginning hwhole ht hbegins honly =>
    apply hj.ne
    apply honly j u hu
    rw [BeginsWith, hsame]
    exact hbegins

/-- Only one position is designated. -/
theorem unique (h : Designates tasks id i t) (h' : Designates tasks id j u) :
  j = i
  := by
  cases h with
  | whole h =>
    cases h' with
    | whole h' =>
      by_contra hne
      obtain hlt | hlt := lt_or_gt_of_ne hne
      · apply h.earlier j hlt u h'.task h'.lower_id
      · apply h'.earlier i hlt t h.task h.lower_id
    | beginning hwhole => exact absurd h.lower_id (hwhole t (List.mem_of_getElem? h.task))
  | beginning hwhole ht hbegins honly => exact honly j u h'.getElem?_eq h'.beginsWith

end Designates

/-- A condition that holds of no other task holds at the position of this one only. -/
theorem eq_length_of_forall_not {front back : List Task} {condition : Task → Prop}
    (h : ∀ v ∈ front ++ back, ¬ condition v) (hu : (front ++ t :: back)[j]? = some u)
    (hcondition : condition u) :
  j = front.length
  := by
  obtain hlt | rfl | hgt := lt_trichotomy j front.length
  · rw [List.getElem?_append_left hlt] at hu
    apply absurd hcondition (h u (List.mem_append_left back (List.mem_of_getElem? hu)))
  · rfl
  · rw [List.getElem?_append_right hgt.le, List.getElem?_cons, if_neg (by omega)] at hu
    apply absurd hcondition (h u (List.mem_append_right front (List.mem_of_getElem? hu)))

/-- A condition that leaves one task of the list holds at one position only, which is that of the
task. -/
theorem exists_of_filter_eq_singleton {condition : Task → Bool}
    (h : tasks.filter condition = [t]) :
  condition t ∧ ∃ i : Nat, tasks[i]? = some t
    ∧ ∀ (j : Nat) (u : Task), tasks[j]? = some u → condition u → j = i
  := by
  obtain ⟨front, back, rfl, hfront, ht, hback⟩ := List.filter_eq_cons_iff.mp h
  refine ⟨ht, front.length, by simp, ?_⟩
  intro j u
  apply eq_length_of_forall_not
  exact List.forall_mem_append.mpr ⟨hfront, List.filter_eq_nil_iff.mp hback⟩

/-- The tasks among which one is sought are those that begin with the text. -/
theorem candidates_eq (tasks : List Task) (id : String) :
  candidates tasks (Text.lower id) = tasks.filter (BeginsWith id)
  := by
  rw [candidates]
  apply List.filter_congr
  intro t _
  rw [← Bool.coe_iff_coe, Text.startsWith_iff, decide_eq_true_iff, BeginsWith]

/-- An identifier is found for a text that designates a task.  It is not found when no identifier
begins with the text, and it is ambiguous when several do and none is the text. -/
theorem resolve_cases {part : String} (hkey : idKey id = Text.lower part) (hne : part ≠ "")
    (tasks : List Task) :
  (∃ i t, Designates tasks part i t ∧ resolve tasks id = .ok t.id)
  ∨ (∀ t ∈ tasks, ¬ BeginsWith part t) ∧ resolve tasks id = .error (.notFound id)
  ∨ (∀ t ∈ tasks, Text.lower t.id ≠ Text.lower part) ∧ 2 ≤ tasks.countP (BeginsWith part)
    ∧ resolve tasks id = .error (.ambiguousId id (tasks.countP (BeginsWith part)))
  := by
  have hempty : (Text.lower part).isEmpty = false := by
    simpa using Text.lower_ne_empty hne
  simp only [resolve, hkey, hempty, Bool.false_eq_true, if_false]
  by_cases hwhole : ∃ t ∈ tasks, Text.lower t.id = Text.lower part
  · obtain ⟨t, ht, hlower⟩ := hwhole
    obtain ⟨k, hk⟩ := List.getElem?_of_mem ht
    obtain ⟨i, -, u, hu⟩ := exists_isFirst hk
    rw [hlower] at hu
    left
    use i, u, .whole hu
    rw [hu.find?_eq]
  · push Not at hwhole
    have hfind : tasks.find? (Text.lower ·.id == Text.lower part) = none := by
      simpa [List.find?_eq_none] using hwhole
    have hcount : tasks.countP (BeginsWith part) = (candidates tasks (Text.lower part)).length := by
      rw [candidates_eq, List.countP_eq_length_filter]
    rw [hfind, hcount]
    simp only
    split
    · next hnone =>
      right
      left
      rw [candidates_eq, List.filter_eq_nil_iff] at hnone
      exact ⟨by simpa using hnone, rfl⟩
    · next t hone =>
      left
      rw [candidates_eq] at hone
      obtain ⟨hbegins, i, ht, honly⟩ := exists_of_filter_eq_singleton hone
      refine ⟨i, t, .beginning hwhole ht (of_decide_eq_true hbegins) ?_, rfl⟩
      intro j u hu hbegins
      exact honly j u hu (decide_eq_true hbegins)
    · next hnone hone =>
      right
      right
      refine ⟨hwhole, ?_, rfl⟩
      rcases hcandidates : candidates tasks (Text.lower part) with _ | ⟨t, _ | ⟨u, rest⟩⟩
      · exact absurd hcandidates hnone
      · exact absurd hcandidates (hone t)
      · simp

end Store

namespace Cli

/-- An identifier that is accepted is not empty and has no blanks. -/
theorem not_isBlank_of_checkId {id : String} (h : checkId id = .ok ()) :
  id ≠ "" ∧ ∀ c ∈ id.toList, Text.isBlank c = false
  := by
  obtain ⟨_, hblank, hany⟩ := bind_eq_ok_iff.mp h
  constructor
  · rintro rfl
    apply trim_ne_of_require hblank
    rfl
  · simpa using require_eq_ok_iff.mp hany

namespace FolderSession

open Store (BeginsWith Designates)

variable {s : FolderSession} {w : World} {id : String}

/-! ### Commands on one task -/

/-- How a command on one task ends, when it is to make the new list out of the position and the
task, and then to show the title.  It is refused because no position is designated, or it acts on
the only one that is, and the new list is then written or cannot be. -/
inductive ActsOn (s : FolderSession) (w : World) (id : String) (change : Nat → Task → List Task)
    (caption : String) (result : Outcome × World) : Prop
  /-- No identifier begins with the text, and nothing changes. -/
  | unknown (hnone : ∀ t ∈ s.store.tasks, ¬ BeginsWith id t)
      (herror : result.1.1 = .error (.store (.notFound id))) (hkeeps : s.Keeps w result)
  /-- Several identifiers begin with the text, none is the text, and nothing changes. -/
  | ambiguous (count : Nat) (hcount : count = s.store.tasks.countP (BeginsWith id))
      (hmany : 2 ≤ count) (hwhole : ∀ t ∈ s.store.tasks, Text.lower t.id ≠ Text.lower id)
      (herror : result.1.1 = .error (.store (.ambiguousId id count))) (hkeeps : s.Keeps w result)
  /-- The position is the only one designated.  The store has the new list, also if it cannot be
  written. -/
  | acted (i : Nat) (t : Task) (hdesignates : Designates s.store.tasks id i t)
      (honly : ∀ j u, Designates s.store.tasks id j u → j = i)
      (hchanged : result.1.2 = { s.store with tasks := change i t })
      (before : World) (hdisk : before.disk = w.disk) (saved : Except Storage.Fault Unit)
      (hsave : result.1.2.save (folderStorage s.folder) before = (saved, result.2))
      (hanswer : result.1.1 = match saved with
        | .ok () => .ok (unlines [caption ++ t.title])
        | .error fault => .error (.store (.storage fault)))

/-- A command acts on one task when its action applies to the task that is found a change which
makes the new list. -/
theorem actsOn_withTask (h : checkId id = .ok ()) {change : Nat → Task → List Task}
    {caption : String} {act : String → StateM World (Except Store.Error Task × Store)}
    {made : String → Store.Change Task} {text : Task → List String}
    (hact : ∀ found, ∃ before, before.disk = w.disk
      ∧ (Store.Backend.inFolder s.folder).Applies s.store (act found) (made found) w before)
    (hmade : ∀ i t, Designates s.store.tasks id i t → ∃ answer,
      made t.id s.store.tasks = .ok (answer, change i t) ∧ text answer = [caption ++ t.title]) :
  s.ActsOn w id change caption (s.session.withTask id (fun found => do
    return shown text (← act found)) w)
  := by
  obtain ⟨hne, hblank⟩ := not_isBlank_of_checkId h
  have hkey : Store.idKey id = Text.lower id := by
    rw [Store.idKey, Text.trim_of_forall_not_isBlank hblank]
  have hstore : s.session.store = s.store := rfl
  simp only [Session.withTask, Session.checked, h, hstore]
  obtain ⟨i, t, hdesignates, hresolve⟩ | ⟨hnone, hresolve⟩ | ⟨hwhole, hmany, hresolve⟩ :=
    Store.resolve_cases hkey hne s.store.tasks
  · obtain ⟨answer, hchange, htext⟩ := hmade i t hdesignates
    have hshown : (do return shown text (← act t.id) : StateM World Outcome) w
        = (shown text (act t.id w).1, (act t.id w).2) := rfl
    obtain ⟨before, hdisk, happlies⟩ := hact t.id
    have happly := Store.applied_inFolder happlies hchange
    rw [hresolve]
    simp only
    rcases hsave : Store.save (folderStorage s.folder) { s.store with tasks := change i t } before
      with ⟨fault | _, w'⟩
    · rw [hsave] at happly
      rw [hshown, happly]
      exact ActsOn.acted i t hdesignates (fun j u => hdesignates.unique) rfl before hdisk
        (.error fault) hsave rfl
    · rw [hsave] at happly
      rw [hshown, happly]
      refine ActsOn.acted i t hdesignates (fun j u => hdesignates.unique) rfl before hdisk
        (.ok ()) hsave ?_
      rw [← htext]
      rfl
  · rw [hresolve]
    exact ActsOn.unknown hnone rfl ⟨rfl, rfl⟩
  · rw [hresolve]
    exact ActsOn.ambiguous _ rfl hmany hwhole rfl ⟨rfl, rfl⟩

/-- Whatever the list is and whichever identifier is accepted, done, reopen and delete act on the
one position that the identifier designates, or on none.  To delete a task removes the position, and
to mark it changes whether and when the task there was completed. -/
theorem run_actsOn (h : checkId id = .ok ()) (s : FolderSession) (w : World) :
  s.ActsOn w id (fun i _ => s.store.tasks.eraseIdx i) "Deleted: " (s.session.run (.delete id) w)
    ∧ ∀ completed, s.ActsOn w id
      (fun i t => s.store.tasks.set i { t with
        completed
        completedAt := if completed then some (w.readings w.read).stamp else none })
      (if completed then "Completed: " else "Reopened: ") (s.session.run (.mark id completed) w)
  := by
  constructor
  · have hact := fun found =>
      Store.Backend.applies_apply (Store.Backend.inFolder s.folder) s.store (Store.delete found) w
    rw [Session.run, Session.delete]
    refine actsOn_withTask h (fun found => ⟨w, rfl, hact found⟩) ?_
    intro i t hdesignates
    exact ⟨t, Store.delete_of_position hdesignates.position_eq hdesignates.getElem?_eq, rfl⟩
  · intro completed
    have hact := fun found => Store.applies_setCompleted_inFolder s.folder s.store found completed w
    rw [Session.run, Session.mark]
    refine actsOn_withTask h hact ?_
    intro i t hdesignates
    have hmark := Store.mark_of_position hdesignates.position_eq hdesignates.getElem?_eq
      (if completed then some (w.readings w.read).stamp else none)
    cases completed <;> exact ⟨_, hmark, rfl⟩

/-- A session with tasks whose identifiers differ in letter case only or begin with one another. -/
def alikeSession : FolderSession where
  folder := ""
  config := {}
  store := ⟨Store.smallAndCapital ++ [Store.newTask ⟨"ab", "2024-05-01T00:00:00.000Z"⟩ "Third" "Work"],
    Config.storeOptions {}⟩
  zone time := time
  reply _ := .ok false

/-- The identifier of the second task is that of the first one regardless of letter case, so the
first one is removed. -/
theorem run_actsOn_alikeSession :
  checkId "A" = .ok ()
    ∧ (alikeSession.session.run (.delete "A") Storage.Access.emptyWorld).1.2.tasks
      = alikeSession.store.tasks.tail
  := by
  have hcheck : checkId "A" = .ok () := by decide +kernel
  use hcheck
  have htask : alikeSession.store.tasks[0]? = some _ := rfl
  have hfirst : Store.IsFirst alikeSession.store.tasks (Text.lower "A") 0 _ :=
    ⟨htask, by decide +kernel, by simp⟩
  cases (run_actsOn hcheck alikeSession Storage.Access.emptyWorld).1 with
  | unknown hnone =>
    apply absurd (Store.beginsWith_of_lower_eq hfirst.lower_id)
    apply hnone _ (List.mem_of_getElem? htask)
  | ambiguous count hcount hmany hwhole =>
    apply absurd hfirst.lower_id
    apply hwhole _ (List.mem_of_getElem? htask)
  | acted i t hdesignates honly hchanged =>
    obtain rfl := honly 0 _ (.whole hfirst)
    rw [hchanged]
    rfl

end FolderSession

end Cli

end Agenda
