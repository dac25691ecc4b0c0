import Agenda.Text.Lower

/-!
# Tasks

A task is one entry of the list.  Its texts are free: the due date and the two times are
kept as they were written.  Two tasks are duplicates of each other when they have the same
`duplicateKey`, which joins the title and the category in small letters.
-/

namespace Agenda

/-- One entry of the list.  `due` is empty for a task without a due date, and
`completedAt` is the time at which the task was completed. -/
structure Task where
  id : String
  title : String
  category : String
  due : String
  createdAt : String
  completed : Bool
  completedAt : Option String
deriving DecidableEq, Repr, Inhabited

namespace Task

/-- Title and category in small letters with a bar between them. -/
def duplicateKey (t : Task) : String :=
  Text.lower t.title ++ "|" ++ Text.lower t.category

/-- The task after it is marked as completed at the given time, or as open. -/
def mark (t : Task) (completedAt : Option String) : Task :=
  { t with completed := completedAt.isSome, completedAt := completedAt }

/-- What a field of a task holds.  A field that has no value is `absent`; a name that is
no field is `unknown`. -/
inductive Field where
  | text (value : String)
  | flag (value : Bool)
  | absent
  | unknown
deriving DecidableEq, Repr

/-- The text by which the content of a field is compared and searched. -/
def Field.display : Field → String
  | .text value => value
  | .flag true => "true"
  | .flag false => "false"
  | .absent => ""
  | .unknown => "undefined"

/-- The content of the field with the given name.  Names are case-sensitive. -/
def field (t : Task) (name : String) : Field :=
  match name with
  | "id" => .text t.id
  | "title" => .text t.title
  | "category" => .text t.category
  | "due" => .text t.due
  | "createdAt" => .text t.createdAt
  | "completed" => .flag t.completed
  | "completedAt" => match t.completedAt with
    | some time => .text time
    | none => .absent
  | _ => .unknown

end Task

end Agenda
