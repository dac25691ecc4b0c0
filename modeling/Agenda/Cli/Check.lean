import Agenda.Calendar.Entry
import Agenda.Cli.Error

/-!
# Checks of arguments

Which arguments of commands are accepted.  An empty category stands for the default one, and
an empty due date for none.
-/

namespace Agenda.Cli

/-- The greatest number of characters in a title. -/
def maxTitleLength : Nat := 500

/-- The greatest number of characters in a category. -/
def maxCategoryLength : Nat := 50

/-- Fails with the error unless the condition holds. -/
def require (condition : Bool) (field reason : String) : Except Error Unit :=
  if condition then .ok () else .error (.invalid field reason)

/-- The text is empty or blank. -/
def isBlankText (s : String) : Bool :=
  (Text.trim s).isEmpty

/-- The title is not blank and not too long. -/
def checkTitle (title : String) : Except Error Unit := do
  require (!isBlankText title) "title" "Add title"
  require (title.length ≤ maxTitleLength) "title"
    ("Title cannot exceed " ++ toString maxTitleLength ++ " characters")

/-- The category is not too long. -/
def checkCategory (category : String) : Except Error Unit :=
  require (category.length ≤ maxCategoryLength) "category"
    ("Category cannot exceed " ++ toString maxCategoryLength ++ " characters")

/-- The due date is blank or a date. -/
def checkDue (due : String) : Except Error Unit :=
  let due := Text.trim due
  require (due.isEmpty || (Calendar.Date.ofEntry? due).isSome) "due"
    ("expected YYYY-MM-DD, got '" ++ due ++ "'")

/-- The identifier is not blank and contains no blanks. -/
def checkId (id : String) : Except Error Unit := do
  require (!isBlankText id) "id" "Task id cannot be empty"
  require (!id.toList.any Text.isBlank) "id" "Task id cannot contain whitespace"

/-- The path for an export is not blank. -/
def checkOutput (path : String) : Except Error Unit :=
  require (!isBlankText path) "output" "Output path cannot be empty"

/-- The argument is checked if it is given. -/
def checkGiven (check : String → Except Error Unit) : Option String → Except Error Unit
  | none => .ok ()
  | some value => check value

end Agenda.Cli
