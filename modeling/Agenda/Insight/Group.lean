import Agenda.Task.Basic

/-!
# Groups of tasks

Tasks are grouped by a text, their key.  The groups stand in the order in which their keys
are first seen, and the tasks of a group in the order of the list.
-/

namespace Agenda.Insight

/-- The tasks that have one key in common. -/
structure Group where
  key : String
  first : Task
  others : List Task
deriving DecidableEq, Repr

namespace Group

/-- All tasks of the group. -/
def tasks (g : Group) : List Task :=
  g.first :: g.others

/-- The number of tasks in the group. -/
def size (g : Group) : Nat :=
  g.tasks.length

/-- The groups after one more task, which joins the group of its key or starts one. -/
def insert (key : String) (t : Task) : List Group → List Group
  | [] => [⟨key, t, []⟩]
  | g :: groups =>
    if g.key = key then { g with others := g.others ++ [t] } :: groups
    else g :: insert key t groups

/-- The tasks grouped by their keys. -/
def collect (key : Task → String) (tasks : List Task) : List Group :=
  tasks.foldl (fun groups t => insert (key t) t groups) []

end Group

end Agenda.Insight
