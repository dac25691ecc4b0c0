import Agenda.Query.Parser
import Agenda.Query.Select
import Agenda.Task.Record

/-!
# Answering queries

A query is answered by the selected tasks or by the error that its text has.  The answer is
shown as an array of tasks in the indented layout, or as the wording of the error.
-/

namespace Agenda.Query

/-- The tasks that the query selects. -/
def answer (query : String) (tasks : List Task) : Except Error (List Task) :=
  (parse query).map (·.select tasks)

/-- The answer as it is shown. -/
def render : Except Error (List Task) → String
  | .ok tasks => Task.writeList .indented tasks
  | .error e => "ERROR: " ++ e.message

end Agenda.Query
