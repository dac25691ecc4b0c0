import Agenda.Storage.Basic
import Agenda.Store.Change
import Agenda.Task.Filter
import Agenda.Task.Record

/-!
# The store

The store is a list of tasks that is kept in a storage.  After every change the whole list is
written.  A change that fails writes nothing; when the list cannot be written, the change
remains in the store.
-/

namespace Agenda

open Storage (Fault)

/-- Under which key the list is kept, and which category a task has by default. -/
structure Store.Options where
  key : String
  defaultCategory : String
deriving DecidableEq, Repr

/-- The list of tasks with its options. -/
structure Store where
  tasks : List Task
  options : Store.Options
deriving DecidableEq, Repr

namespace Store

/-- The key of the storage under which the list is kept. -/
def Options.listKey (o : Options) : String :=
  o.key ++ ".json"

variable {m : Type → Type} [Monad m]

/-- The list that is kept in the storage.  It is empty when nothing is kept. -/
def load (storage : Storage m) (options : Options) : m (Except Error Store) := do
  match ← storage.read options.listKey with
  | .ok data =>
    match Task.decode? data with
    | some tasks => return .ok ⟨tasks, options⟩
    | none => return .error .malformed
  | .error fault =>
    if fault.isNotFound then return .ok ⟨[], options⟩
    else return .error (.storage fault)

/-- The list is written to the storage. -/
def save (storage : Storage m) (s : Store) : m (Except Fault Unit) :=
  storage.write s.options.listKey (Task.encode s.tasks)

/-- The answer to a change and the store after it. -/
def apply {α : Type} (storage : Storage m) (s : Store) (change : Change α) :
    m (Except Error α × Store) := do
  match change s.tasks with
  | .error e => return (.error e, s)
  | .ok (answer, tasks) =>
    let changed := { s with tasks }
    match ← changed.save storage with
    | .ok () => return (.ok answer, changed)
    | .error fault => return (.error (.storage fault), changed)

/-- The answer to a request and the store after it.  Nothing is taken from outside when the request
is refused. -/
def serve {α β : Type} (storage : Storage m) (s : Store) (take : m β) (request : Request β α) :
    m (Except Error α × Store) := do
  match request s.tasks with
  | .error e => return (.error e, s)
  | .ok make =>
    let taken ← take
    s.apply storage fun _ => .ok (make taken)

end Store

end Agenda
