import Agenda.Store.Basic
import Agenda.Text.Blank

/-!
# Settings

What can be set about the program, with the defaults, and which settings are accepted.  The
key of the list and the default category are used without the blanks around them.
-/

namespace Agenda

/-- The settings. -/
structure Config where
  /-- The key of the storage under which the list of tasks is kept. -/
  storageKey : String := "taskly_pro_v2"
  /-- The category of tasks that are added without one. -/
  defaultCategory : String := "Uncategorized"
  /-- The query that is run when none is given. -/
  defaultQuery : String := "SELECT * FROM tasks WHERE category = 'Work' AND completed = false"
  /-- The number of days that are shown in the chart of activity. -/
  activityDays : Nat := 7
  /-- The files that are written by exports when no other is given. -/
  csvFile : String := "tasks_export.csv"
  reportFile : String := "taskly_report.txt"
deriving DecidableEq, Repr

namespace Config

/-- The greatest number of days in the chart of activity. -/
def maxActivityDays : Nat := 3650

/-- Why settings are not accepted. -/
inductive Problem where
  | emptyKey
  /-- The key leads out of its folder or is hidden. -/
  | unsafeKey (key : String)
  | emptyCategory
  | noDays
  | tooManyDays (days : Nat)
deriving DecidableEq, Repr

/-- The wording of a problem. -/
def Problem.message : Problem → String
  | .emptyKey => "storage_key cannot be empty"
  | .unsafeKey key => "storage_key must be a plain name, got '" ++ key ++ "'"
  | .emptyCategory => "default_category cannot be empty"
  | .noDays => "activity_days must be greater than 0"
  | .tooManyDays days =>
    "activity_days must be at most " ++ toString maxActivityDays ++ ", got " ++ toString days

/-- The key names an entry of the folder itself that is not hidden. -/
def isPlainName (key : String) : Bool :=
  !key.toList.any (fun c => c == '/' || c == '\\') && key.toList.head? != some '.'

/-- The first problem with the settings. -/
def problem? (c : Config) : Option Problem :=
  let key := Text.trim c.storageKey
  if key.isEmpty then some .emptyKey
  else if !isPlainName key then some (.unsafeKey key)
  else if (Text.trim c.defaultCategory).isEmpty then some .emptyCategory
  else if c.activityDays = 0 then some .noDays
  else if maxActivityDays < c.activityDays then some (.tooManyDays c.activityDays)
  else none

/-- The settings of the store. -/
def storeOptions (c : Config) : Store.Options where
  key := Text.trim c.storageKey
  defaultCategory := Text.trim c.defaultCategory

end Config

end Agenda
