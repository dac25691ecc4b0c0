import Agenda.Store.Error
import Agenda.Task.Basic
import Agenda.Text.Blank
import Agenda.Text.Search

/-!
# Looking up tasks

A task is designated by its identifier or by the beginning of its identifier, regardless of
letter case and of blanks around it.  A whole identifier is preferred to a beginning, and a
beginning has to be that of one task only.
-/

namespace Agenda.Store

/-- The form in which identifiers are compared. -/
def idKey (id : String) : String :=
  Text.lower (Text.trim id)

/-- The tasks whose identifiers begin with the key. -/
def candidates (tasks : List Task) (key : String) : List Task :=
  tasks.filter fun t => Text.startsWith (Text.lower t.id) key

/-- The identifier of the task that is designated. -/
def resolve (tasks : List Task) (id : String) : Except Error String :=
  let key := idKey id
  if key.isEmpty then .error (.notFound id)
  else match tasks.find? (Text.lower ·.id == key) with
    | some t => .ok t.id
    | none =>
      match candidates tasks key with
      | [] => .error (.notFound id)
      | [t] => .ok t.id
      | many => .error (.ambiguousId id many.length)

/-- The position of the first task with exactly this identifier. -/
def position (tasks : List Task) (id : String) : Except Error Nat :=
  match tasks.findIdx? (·.id == id) with
  | some i => .ok i
  | none => .error (.notFound id)

end Agenda.Store
