import Agenda.Task.Basic
import Agenda.Text.Blank
import Agenda.Text.Search

/-!
# Filters

A filter keeps the tasks that satisfy each of its parts: a text searched in the title, an
exact category, and a status.  A part that is not given keeps every task, and so does a
search for nothing but blanks.
-/

namespace Agenda

/-- Which tasks are kept by their completion. -/
inductive Status where
  | all
  | open
  | done
deriving DecidableEq, Repr

/-- The task has the status. -/
def Status.admits : Status → Task → Bool
  | .all, _ => true
  | .open, t => !t.completed
  | .done, t => t.completed

/-- The parts by which tasks are kept. -/
structure Filter where
  search : Option String := none
  category : Option String := none
  status : Status := .all
deriving DecidableEq, Repr

namespace Filter

/-- The title of the task holds the searched text, regardless of letter case and of blanks
around the searched text. -/
def finds (search : String) (t : Task) : Bool :=
  Text.occursIn (Text.lower (Text.trim search)) (Text.lower t.title)

/-- The task satisfies all parts of the filter. -/
def keeps (f : Filter) (t : Task) : Bool :=
  f.search.all (finds · t) && f.category.all (t.category == ·) && f.status.admits t

/-- The positions of the tasks that the filter keeps. -/
def rows (f : Filter) (tasks : List Task) : List Nat :=
  (tasks.zipIdx.filter fun row => f.keeps row.1).map (·.2)

end Filter

end Agenda
