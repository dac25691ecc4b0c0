import Agenda.Storage.Fault

/-!
# Errors of the store

Why a task list cannot be loaded or changed.
-/

namespace Agenda.Store

/-- Why an operation on the task list failed. -/
inductive Error where
  /-- A new task has a title of blanks only. -/
  | emptyTitle
  /-- No task has the identifier. -/
  | notFound (id : String)
  /-- The identifier is the beginning of those of several tasks. -/
  | ambiguousId (id : String) (count : Nat)
  /-- The storage did not read or write the list. -/
  | storage (fault : Storage.Fault)
  /-- The stored bytes are no list of tasks. -/
  | malformed
deriving DecidableEq, Repr

/-- The wording of an error. -/
def Error.message : Error → String
  | .emptyTitle => "task title cannot be empty"
  | .notFound id => "task not found: " ++ id
  | .ambiguousId id count =>
    "task id \x60" ++ id ++ "\x60 is ambiguous, it matches " ++ toString count ++ " tasks"
  | .storage fault => "io error: " ++ fault.details
  | .malformed => "malformed task data"

/-- The wording of what led to the error. -/
def Error.causes : Error → List String
  | .storage fault => [fault.message]
  | _ => []

end Agenda.Store
