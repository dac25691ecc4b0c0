import Agenda.Task.Record

/-!
# Comma separated values

The tasks as a table: a header, and a record for every task.  Every field of a record stands
between double quotes, and a double quote within a field is written twice.  Records end
with a line feed.
-/

namespace Agenda.Export

/-- The text of a field with its double quotes doubled. -/
def doubleQuotes : List Char → List Char
  | [] => []
  | c :: rest => if c = '"' then '"' :: '"' :: doubleQuotes rest else c :: doubleQuotes rest

/-- The field between quotes. -/
def csvField (s : String) : List Char :=
  '"' :: (doubleQuotes s.toList ++ ['"'])

/-- The fields with commas between them, ended by a line feed. -/
def csvRecord (fields : List String) : List Char :=
  [','].intercalate (fields.map csvField) ++ ['\n']

/-- The fields of a task, in the order of its keys.  An open task has an empty field for its
completion, and so has a task without a completion time. -/
def csvFields (t : Task) : List String :=
  [t.id, t.title, t.category, t.due, t.createdAt, if t.completed then "true" else "",
    t.completedAt.getD ""]

/-- The tasks as a table with a header. -/
def csv (tasks : List Task) : String :=
  String.ofList <|
    [','].intercalate (Task.keys.map String.toList) ++ '\n' ::
      (tasks.map fun t => csvRecord (csvFields t)).flatten

end Agenda.Export
