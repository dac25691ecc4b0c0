import Agenda.Store.Basic
import Agenda.Supply

/-!
# Actions on the store

The changes to the list of tasks with all that they need: identifiers and times come from a
supply, and the list is written to a storage.
-/

namespace Agenda.Store

variable {m : Type → Type} [Monad m]

/-- Identifier and creation time of a new task. -/
def birth (supply : Supply m) : m Birth := do
  let id ← supply.fresh
  return ⟨id, (← supply.now).stamp⟩

/-- A task is added. -/
def add (supply : Supply m) (storage : Storage m) (s : Store) (draft : Draft) :
    m (Except Error Task × Store) :=
  s.serve storage (birth supply) (creation s.options.defaultCategory draft)

/-- The time at which a task is completed.  One that is opened again needs none. -/
def completion (supply : Supply m) (completed : Bool) : m (Option String) := do
  if completed then return some (← supply.now).stamp
  else return none

/-- The task with the identifier is marked as completed or as open. -/
def setCompleted (supply : Supply m) (storage : Storage m) (s : Store) (id : String)
    (completed : Bool) : m (Except Error Task × Store) :=
  s.serve storage (completion supply completed) (marking id)

/-- The task with the identifier is removed. -/
def remove (storage : Storage m) (s : Store) (id : String) : m (Except Error Task × Store) :=
  s.apply storage (delete id)

/-- All tasks are removed. -/
def removeAll (storage : Storage m) (s : Store) : m (Except Error Nat × Store) :=
  s.apply storage clear

/-- The sample tasks are added. -/
def addSamples (supply : Supply m) (storage : Storage m) (s : Store) :
    m (Except Error Nat × Store) := do
  let first ← birth supply
  let second ← birth supply
  let third ← birth supply
  let fourth ← birth supply
  let completedAt := (← supply.now).stamp
  s.apply storage (prepend (samples first second third fourth completedAt))

/-- Empty categories are filled and duplicates removed. -/
def tidy (storage : Storage m) (s : Store) : m (Except Error (List String) × Store) :=
  s.apply storage (clean s.options.defaultCategory)

end Agenda.Store
