import Agenda.Query.Basic
import Agenda.Task.Basic
import Agenda.Text.Search

/-!
# Selecting tasks

A selection is a list of positions in the list of tasks, so that equal tasks remain distinct
rows.  Every predicate is tested against the whole list.  A predicate joined by `and` removes
rows from the selection; one joined by `or` appends the rows that are not yet in it.
-/

namespace Agenda.Query

/-- What a `contains` predicate looks for: the value without percent signs, in small
letters. -/
def needle (value : String) : String :=
  Text.lower (String.ofList (value.toList.filter (· != '%')))

/-- The task satisfies the predicate. -/
def Predicate.holds (p : Predicate) (t : Task) : Bool :=
  let text := (t.field p.field).display
  match p.operator with
  | .equals => text == p.value
  | .contains => Text.occursIn (needle p.value) (Text.lower text)

/-- The positions of the tasks that satisfy the predicate, in ascending order. -/
def Predicate.rows (p : Predicate) (tasks : List Task) : List Nat :=
  (tasks.zipIdx.filter fun row => p.holds row.1).map (·.2)

/-- The selection after the rows of one more predicate are joined to it. -/
def Connective.join : Connective → (selection matched : List Nat) → List Nat
  | .and, selection, matched => selection.filter matched.contains
  | .or, selection, matched => selection ++ matched.filter (!selection.contains ·)

/-- The positions of the tasks that satisfy the condition, in the order in which they
entered the selection. -/
def Condition.rows (c : Condition) (tasks : List Task) : List Nat :=
  c.rest.foldl (fun selection (joint, p) => joint.join selection (p.rows tasks))
    (c.first.rows tasks)

/-- The positions of the selected tasks. -/
def Statement.rows (s : Statement) (tasks : List Task) : List Nat :=
  match s.condition with
  | none => List.range tasks.length
  | some c => c.rows tasks

/-- The selected tasks. -/
def Statement.select (s : Statement) (tasks : List Task) : List Task :=
  (s.rows tasks).filterMap (tasks[·]?)

end Agenda.Query
