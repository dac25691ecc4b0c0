import Agenda.Calendar.Date
import Agenda.Task.Basic
import Agenda.Text.Search

/-!
# Activity

How many tasks were added on each of the last days.  A task was added on the date with
which its creation time begins.
-/

namespace Agenda.Insight

/-- The task was added on the date. -/
def addedOn (d : Calendar.Date) (t : Task) : Bool :=
  Text.startsWith t.createdAt d.format

/-- The last days up to the given one, the earliest first, each with the number of tasks
added on it. -/
def activity (tasks : List Task) (today : Calendar.Date) (days : Nat) :
    List (Calendar.Date × Nat) :=
  (today.window days).map fun d => (d, tasks.countP (addedOn d))

end Agenda.Insight
