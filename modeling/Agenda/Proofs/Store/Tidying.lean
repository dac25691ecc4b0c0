import Agenda.Proofs.Store.Atomicity
import Agenda.Proofs.Store.Cleaning

/-!
# What a cleaning leaves

A cleaning leaves the tasks whose keys are new, that is, at no earlier position, after it has
given the default category to all tasks without one.  Its log has a line for each task without
a category and then one for each task that is not left.  The keys of what it leaves are
distinct and no category is missing, so that a second cleaning finds nothing to do; it writes
the bytes that are there already.
-/

namespace Agenda.Store

open Storage (Disk)
open Backend (folderStorage)

variable {tasks : List Task}

/-! ### The list and the log -/

/-- The tasks with the category in place of one that is empty. -/
def filled (defaultCategory : String) (tasks : List Task) : List Task :=
  tasks.map fun t =>
    { t with category := if t.category = "" then defaultCategory else t.category }

/-- A line for each task without a category and then one for each task that is removed. -/
def cleaningLog (defaultCategory : String) (tasks : List Task) : List String :=
  (tasks.filter (·.category = "")).map (fun t => "Filled missing category for '" ++ t.title ++ "'")
    ++ (repetitions (filled defaultCategory tasks)).map ("Removed duplicate: " ++ ·.title)

theorem map_fill (defaultCategory : String) (tasks : List Task) :
  tasks.map (fill defaultCategory) = filled defaultCategory tasks
  := by
  apply List.map_congr_left
  intro t _
  rw [fill]
  split
  · next hempty => rw [if_pos (String.isEmpty_iff.mp hempty)]
  · next hempty => rw [if_neg (String.isEmpty_iff.not.mp hempty)]

theorem clean_eq (defaultCategory : String) (tasks : List Task) :
  clean defaultCategory tasks
    = .ok (cleaningLog defaultCategory tasks, originals (filled defaultCategory tasks))
  := by
  have hempty : tasks.filter (·.category.isEmpty) = tasks.filter (·.category = "") := by
    apply List.filter_congr
    intro t _
    rw [← Bool.coe_iff_coe]
    simp
  rw [clean, map_fill, separate_eq, cleaningLog, hempty]

/-- There is a line for each category that is filled and for each task that is gone. -/
theorem length_cleaningLog (defaultCategory : String) (tasks : List Task) :
  (cleaningLog defaultCategory tasks).length
    + (originals (filled defaultCategory tasks)).length
    = (tasks.filter (·.category = "")).length + tasks.length
  := by
  have hlength := length_originals (filled defaultCategory tasks)
  have hfilled : (filled defaultCategory tasks).length = tasks.length := List.length_map _
  rw [cleaningLog, List.length_append, List.length_map, List.length_map]
  omega

theorem filled_of_forall_ne (h : ∀ t ∈ tasks, t.category ≠ "") (defaultCategory : String) :
  filled defaultCategory tasks = tasks
  := by
  rw [filled, List.map_congr_left, List.map_id]
  intro t ht
  rw [if_neg (h t ht)]
  rfl

/-- What a cleaning leaves has nothing to clean. -/
theorem originals_originals {defaultCategory : String} (h : defaultCategory ≠ "")
    (tasks : List Task) :
  let left := originals (filled defaultCategory tasks)
  cleaningLog defaultCategory left = [] ∧ originals (filled defaultCategory left) = left
  := by
  intro left
  have hcategory : ∀ t ∈ left, t.category ≠ "" := by
    intro t ht
    obtain ⟨u, -, rfl⟩ := List.mem_map.mp (mem_of_mem_tasksAt ht)
    split
    · exact h
    · next hne => exact hne
  obtain ⟨hfirst, hrest⟩ := originals_of_nodup (nodup_originals (filled defaultCategory tasks))
  have hnone : left.filter (·.category = "") = [] := by
    simpa [List.filter_eq_nil_iff] using hcategory
  rw [cleaningLog, filled_of_forall_ne hcategory, hfirst, hrest, hnone]
  exact ⟨rfl, rfl⟩

/-! ### Cleaning a store -/

variable {s : Store}

/-- The store with the first task of every key, after the default category is given to the tasks
without one. -/
def tidied (s : Store) : Store :=
  { s with tasks := originals (filled s.options.defaultCategory s.tasks) }

theorem tidied_tidied (h : s.options.defaultCategory ≠ "") :
  cleaningLog s.options.defaultCategory s.tidied.tasks = [] ∧ s.tidied.tidied = s.tidied
  := by
  obtain ⟨hlog, htasks⟩ := originals_originals h s.tasks
  use hlog
  rw [tidied, tidied]
  simp only [htasks]

/-- Whether or not the list can be written, it is afterwards the one that a cleaning leaves. -/
theorem run_tidy {m : Type → Type} [Monad m] {σ : Type} (B : Backend m σ) (s : Store) (state : σ) :
  (B.run (s.tidy B.storage) state).1.2 = s.tidied
  := by
  rw [tidy]
  obtain ⟨e, hclean, -⟩ | ⟨log, left, hclean, ⟨state', -, hrun⟩ | ⟨fault, state', -, hrun⟩⟩ :=
    B.apply_cases s (clean s.options.defaultCategory) state
  · rw [clean_eq] at hclean
    contradiction
  · rw [clean_eq] at hclean
    rw [hrun]
    cases hclean
    rfl
  · rw [clean_eq] at hclean
    rw [hrun]
    cases hclean
    rfl

theorem tidy_memoryStorage (s : Store) (memory : Storage.Memory) (w : World) :
  s.tidy memoryStorage memory w = (((.ok (cleaningLog s.options.defaultCategory s.tasks), s.tidied),
    memory.put s.options.listKey (Task.encode s.tidied.tasks)), w)
  := by
  rw [tidy, apply, clean_eq]
  rfl

theorem tidy_folderStorage (s : Store) (folder : String) (w : World) :
  s.tidy (folderStorage folder) w = match s.tidied.save (folderStorage folder) w with
    | (.ok (), w') => ((.ok (cleaningLog s.options.defaultCategory s.tasks), s.tidied), w')
    | (.error fault, w') => ((.error (.storage fault), s.tidied), w')
  := apply_folderStorage (clean_eq _ _) folder w

/-- A list that has been written is the one that is loaded, and it can be written again. -/
theorem load_of_save {folder : String} {w w' : World} (h : w.IsFreshFor folder s.options.listKey)
    (hsave : s.save (folderStorage folder) w = (.ok (), w')) :
  load (folderStorage folder) s.options w' = (.ok s, w')
    ∧ w'.IsFreshFor folder s.options.listKey
  := by
  obtain ⟨fault, heq⟩ | ⟨w'', heq, hload, hfresh⟩ := save_cases h
  · rw [hsave] at heq
    cases heq
  · rw [hsave] at heq
    obtain ⟨-, rfl⟩ := Prod.mk.inj heq
    exact ⟨hload, hfresh⟩

/-- To write a list again that has been written changes nothing. -/
theorem save_again {folder : String} {w w' : World} (h : w.IsFreshFor folder s.options.listKey)
    (hsave : s.save (folderStorage folder) w = (.ok (), w')) :
  s.save (folderStorage folder) w' = (.ok (), w'.afterFresh)
  := by
  have hfresh := (load_of_save h hsave).2
  rw [save_eq] at hsave
  rcases hreplace : w.disk.replace
      (Disk.join folder (Storage.temporaryName (w.identifiers w.issued) s.options.listKey))
      (Disk.join folder s.options.listKey) (Task.encode s.tasks) with ⟨answer, disk⟩
  rw [hreplace] at hsave
  obtain ⟨rfl, rfl⟩ := Prod.mk.inj hsave
  have hagain := (h.isUnused w.issued le_rfl).replace_again (h.isIdentifier w.issued le_rfl)
    (endsInName_listKey s.options) hreplace (hfresh.isUnused _ le_rfl)
    (hfresh.isIdentifier _ le_rfl)
  simp only [save_eq, hagain]
  rfl

/-- A cleaning that is saved leaves the first task of every key, after the default category was
given to the tasks without one, and its log tells what was changed.  The keys of these tasks are
distinct.  A second cleaning has an empty log and changes neither the list nor what is stored. -/
theorem tidy_settles (h : s.options.defaultCategory ≠ "") :
  (cleaningLog s.options.defaultCategory s.tasks).length + s.tidied.tasks.length
      = (s.tasks.filter (·.category = "")).length + s.tasks.length
    ∧ (s.tidied.tasks.map Task.duplicateKey).Nodup
    ∧ (∀ memory w,
      let log := cleaningLog s.options.defaultCategory s.tasks
      let kept := memory.put s.options.listKey (Task.encode s.tidied.tasks)
      s.tidy memoryStorage memory w = (((.ok log, s.tidied), kept), w)
        ∧ s.tidied.tidy memoryStorage kept w = (((.ok [], s.tidied), kept), w))
    ∧ ∀ folder w log changed w', s.tidy (folderStorage folder) w = ((.ok log, changed), w') →
      log = cleaningLog s.options.defaultCategory s.tasks ∧ changed = s.tidied
        ∧ (w.IsFreshFor folder s.options.listKey →
          load (folderStorage folder) s.options w' = (.ok s.tidied, w')
            ∧ ∃ w'', s.tidied.tidy (folderStorage folder) w' = ((.ok [], s.tidied), w'')
              ∧ w''.disk = w'.disk)
  := by
  obtain ⟨hlog, htidied⟩ := tidied_tidied h
  refine ⟨length_cleaningLog _ _, nodup_originals _, ?_, ?_⟩
  · intro memory w log kept
    have hagain := tidy_memoryStorage s.tidied kept w
    have hoptions : s.tidied.options = s.options := rfl
    rw [hoptions, hlog, htidied, Bindings.put_put] at hagain
    exact ⟨tidy_memoryStorage s memory w, hagain⟩
  · intro folder w log changed w' hrun
    rw [tidy_folderStorage] at hrun
    rcases hsave : s.tidied.save (folderStorage folder) w with ⟨_ | _, w₁⟩
    · rw [hsave] at hrun
      cases hrun
    · rw [hsave] at hrun
      cases hrun
      refine ⟨rfl, rfl, ?_⟩
      intro hfresh
      have hload := (load_of_save (s := s.tidied) hfresh hsave).1
      have hagain := save_again (s := s.tidied) hfresh hsave
      refine ⟨hload, w'.afterFresh, ?_, rfl⟩
      have hoptions : s.tidied.options = s.options := rfl
      rw [tidy_folderStorage, htidied, hagain, hoptions, hlog]

/-- Two tasks of which the first has no category, and both have the same key when it has one. -/
def untidyStore : Store where
  tasks := [newTask ⟨"a", "2024-05-01T00:00:00.000Z"⟩ "Call" "",
    newTask ⟨"b", "2024-05-01T00:00:00.000Z"⟩ "call" "Inbox"]
  options := ⟨"tasks", "Inbox"⟩

/-- The list is written in an empty folder. -/
theorem save_tidied_untidyStore :
  ∃ w', untidyStore.tidied.save (folderStorage "") Storage.Access.emptyWorld = (.ok (), w')
  := by
  have hroom : Disk.HasRoom "" := ⟨by decide, by decide⟩
  have hname : Storage.IsName "tasks.json" := ⟨by decide, by decide, by decide, by decide⟩
  have hid : IsIdentifier
      (Storage.Access.emptyWorld.identifiers Storage.Access.emptyWorld.issued) := ⟨0, 0, rfl⟩
  have hreplace := Storage.Access.opens_emptyWorld.replace_eq
    (hroom.fits_temporaryName hid hname (by decide) (by decide))
    (hroom.fits hname (by decide) (by decide)) (Storage.temporaryName_ne _ _) rfl
    (Task.encode untidyStore.tidied.tasks)
  have hkey : untidyStore.tidied.options.listKey = "tasks.json" := rfl
  rw [save_eq, hkey, hreplace]
  exact ⟨_, rfl⟩

/-- In an empty folder the first task gets its category, the second one is removed, and then there
is nothing more to clean. -/
theorem tidy_settles_untidyStore :
  untidyStore.options.defaultCategory ≠ ""
    ∧ Storage.Access.emptyWorld.IsFreshFor "" untidyStore.options.listKey
    ∧ ∃ tidied w' w'', untidyStore.tidy (folderStorage "") Storage.Access.emptyWorld
        = ((.ok ["Filled missing category for 'Call'", "Removed duplicate: call"], tidied), w')
      ∧ tidied.tasks = [newTask ⟨"a", "2024-05-01T00:00:00.000Z"⟩ "Call" "Inbox"]
      ∧ tidied.tidy (folderStorage "") w' = ((.ok [], tidied), w'') ∧ w''.disk = w'.disk
  := by
  have hcategory : untidyStore.options.defaultCategory ≠ "" := by decide
  have hfresh : Storage.Access.emptyWorld.IsFreshFor "" untidyStore.options.listKey :=
    isFreshFor_emptyWorld
  obtain ⟨w', hsave⟩ := save_tidied_untidyStore
  have hrun := tidy_folderStorage untidyStore "" Storage.Access.emptyWorld
  rw [hsave] at hrun
  obtain ⟨-, -, -, hfolder⟩ := tidy_settles hcategory
  obtain ⟨-, -, hsettled⟩ := hfolder "" _ _ _ _ hrun
  obtain ⟨-, w'', hagain, hdisk⟩ := hsettled hfresh
  exact ⟨hcategory, hfresh, _, w', w'', hrun, by decide +kernel, hagain, hdisk⟩

end Agenda.Store
