import Agenda.Store.Lookup

/-!
# Changes to a list of tasks

Every change takes a list of tasks to a new one with an answer, or fails.  Some changes need
something from outside, such as the identifier of a new task and the time.  Whether they fail does
not depend on it, and it is to be taken only when they do not: they are given as requests.
-/

namespace Agenda.Store

/-- What is asked for in a new task. -/
structure Draft where
  title : String
  category : Option String := none
  due : Option String := none
deriving DecidableEq, Repr

/-- The identifier and the creation time of a new task. -/
structure Birth where
  id : String
  time : String
deriving DecidableEq, Repr

/-- The new list with an answer, or the reason why there is none. -/
abbrev Change (α : Type) := List Task → Except Error (α × List Task)

/-- A change that waits for something from outside, or the reason why there is none. -/
abbrev Request (β α : Type) := List Task → Except Error (β → α × List Task)

/-- The change that is made once this has been taken from outside. -/
def Request.taking {α β : Type} (request : Request β α) (taken : β) : Change α :=
  fun tasks => (request tasks).map fun make => make taken

/-- An open task without a due date. -/
def newTask (birth : Birth) (title category : String) (due : String := "") : Task where
  id := birth.id
  title := title
  category := category
  due := due
  createdAt := birth.time
  completed := false
  completedAt := none

/-- A task is to be put in front.  Its texts are trimmed, and the default takes the place of a
category that is missing or blank. -/
def creation (defaultCategory : String) (draft : Draft) : Request Birth Task :=
  fun tasks =>
    let title := Text.trim draft.title
    if title.isEmpty then .error .emptyTitle
    else
      let category := ((draft.category.map Text.trim).filter (!·.isEmpty)).getD defaultCategory
      let due := Text.trim (draft.due.getD "")
      .ok fun birth =>
        let t := newTask birth title category due
        (t, t :: tasks)

/-- The task is put in front. -/
def create (defaultCategory : String) (draft : Draft) (birth : Birth) : Change Task :=
  (creation defaultCategory draft).taking birth

/-- The task with the identifier is to be marked as completed at a time, or as open. -/
def marking (id : String) : Request (Option String) Task :=
  fun tasks => do
    let i ← position tasks id
    match tasks[i]? with
    | none => .error (.notFound id)
    | some t => .ok fun completedAt => (t.mark completedAt, tasks.set i (t.mark completedAt))

/-- The task with the identifier is marked. -/
def mark (id : String) (completedAt : Option String) : Change Task :=
  (marking id).taking completedAt

/-- The task with the identifier is removed. -/
def delete (id : String) : Change Task :=
  fun tasks => do
    let i ← position tasks id
    match tasks[i]? with
    | none => .error (.notFound id)
    | some t => .ok (t, tasks.eraseIdx i)

/-- All tasks are removed; the answer is how many they were. -/
def clear : Change Nat :=
  fun tasks => .ok (tasks.length, [])

/-- Four sample tasks, of which the third is completed at the given time. -/
def samples (first second third fourth : Birth) (completedAt : String) : List Task :=
  [newTask first "Finish analytics report" "Work", newTask second "Study SQL basics" "Study",
    (newTask third "Buy groceries" "Errands").mark (some completedAt),
    newTask fourth "Workout" "Health"]

/-- The tasks are put in front; the answer is how many they are. -/
def prepend (added : List Task) : Change Nat :=
  fun tasks => .ok (added.length, added ++ tasks)

/-! ### Cleaning -/

/-- The task with the default in place of an empty category. -/
def fill (defaultCategory : String) (t : Task) : Task :=
  if t.category.isEmpty then { t with category := defaultCategory } else t

/-- The tasks without a duplicate before them, and the others.  The keys in `seen` count as
those of earlier tasks. -/
def separate (seen : List String) : List Task → List Task × List Task
  | [] => ([], [])
  | t :: rest =>
    if seen.contains t.duplicateKey then
      let (kept, removed) := separate seen rest
      (kept, t :: removed)
    else
      let (kept, removed) := separate (t.duplicateKey :: seen) rest
      (t :: kept, removed)

/-- Empty categories are filled and duplicates of earlier tasks are removed.  The answer has
a line for each filled category and then one for each removed task. -/
def clean (defaultCategory : String) : Change (List String) :=
  fun tasks =>
    let filled := (tasks.filter (·.category.isEmpty)).map fun t =>
      "Filled missing category for '" ++ t.title ++ "'"
    let (kept, removed) := separate [] (tasks.map (fill defaultCategory))
    .ok (filled ++ removed.map ("Removed duplicate: " ++ ·.title), kept)

end Agenda.Store
