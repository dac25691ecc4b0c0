import Agenda.Insight.Group
import Agenda.Insight.Rate

/-!
# Counters

The counters that are shown about a list of tasks: how many there are in each category, how
many are completed, which category has most tasks, how many tasks have no due date and
which are duplicates of each other.
-/

namespace Agenda.Insight

/-- Every category with its number of tasks, in the order in which they are first seen. -/
def categoryCounts (tasks : List Task) : List (String × Nat) :=
  (Group.collect Task.category tasks).map fun g => (g.key, g.size)

/-- The entry with the greatest count, and of several the first. -/
def largest? (counts : List (String × Nat)) : Option (String × Nat) :=
  counts.foldl (fun best entry =>
    match best with
    | none => some entry
    | some top => if top.2 < entry.2 then some entry else some top) none

/-- The number of completed tasks. -/
def completedCount (tasks : List Task) : Nat :=
  tasks.countP (·.completed)

/-- The numbers of completed and of open tasks, of one category if it is given. -/
def breakdown (tasks : List Task) (category : Option String) : Nat × Nat :=
  let scope := tasks.filter fun t => category.all (t.category == ·)
  (completedCount scope, scope.length - completedCount scope)

/-- The general counters of a list of tasks. -/
structure Summary where
  total : Nat
  completed : Nat
  /-- The completed tasks as a percentage of all. -/
  rate : Nat
  /-- The category with most tasks; there is none without tasks. -/
  topCategory : Option String
deriving DecidableEq, Repr

/-- The general counters of the tasks. -/
def summarize (tasks : List Task) : Summary where
  total := tasks.length
  completed := completedCount tasks
  rate := percent (completedCount tasks) tasks.length
  topCategory := (largest? (categoryCounts tasks)).map (·.1)

/-- Tasks that are duplicates of each other: their title in small letters and how many
there are. -/
structure Duplicates where
  title : String
  copies : Nat
deriving DecidableEq, Repr

/-- What may be wrong with a list of tasks. -/
structure Anomalies where
  /-- The number of tasks without a due date. -/
  missingDue : Nat
  duplicates : List Duplicates
deriving DecidableEq, Repr

/-- What may be wrong with the tasks. -/
def anomalies (tasks : List Task) : Anomalies where
  missingDue := tasks.countP (·.due.isEmpty)
  duplicates :=
    ((Group.collect Task.duplicateKey tasks).filter (1 < ·.size)).map fun g =>
      ⟨Text.lower g.first.title, g.size⟩

/-- The line about tasks without a due date. -/
def Anomalies.missingDueLine (a : Anomalies) : String :=
  "Missing due dates: " ++ toString a.missingDue

/-- The line about duplicates. -/
def Anomalies.duplicatesLine (a : Anomalies) : String :=
  "Potential duplicates: " ++
    if a.duplicates.isEmpty then "0"
    else ", ".intercalate <| a.duplicates.map fun d =>
      d.title ++ " (" ++ toString d.copies ++ " copies)"

end Agenda.Insight
