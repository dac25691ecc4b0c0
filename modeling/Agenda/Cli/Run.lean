import Agenda.Cli.Chart
import Agenda.Cli.Check
import Agenda.Cli.Command
import Agenda.Cli.Session
import Agenda.Export.Csv
import Agenda.Export.Report
import Agenda.Query.Answer

/-!
# Running commands

Every command checks its arguments before it does anything.  It ends with the text that it
shows or with an error, and with the list of tasks after it.
-/

namespace Agenda.Cli

variable {m : Type → Type} [Monad m]

/-- What a command shows, or why it failed, and the store after it. -/
abbrev Outcome := Except Error String × Store

/-- The lines, each with its end. -/
def unlines (lines : List String) : String :=
  String.join (lines.map (· ++ "\n"))

/-- The line of a task in a list. -/
def taskLine (t : Task) : String :=
  "[" ++ (if t.completed then "x" else " ") ++ "] " ++ t.id ++ "  " ++ t.title ++
    " (" ++ t.category ++ ")" ++ (if t.due.isEmpty then "" else " • Due " ++ t.due)

/-- The outcome of a change to the store whose answer is shown as told. -/
def shown {α : Type} (text : α → List String) (r : Except Store.Error α × Store) : Outcome :=
  (match r.1 with
    | .ok answer => .ok (unlines (text answer))
    | .error e => .error (.store e), r.2)

namespace Session

/-- The command shows lines and leaves the store as it is. -/
def shows (s : Session m) (lines : List String) : Outcome :=
  (.ok (unlines lines), s.store)

/-- The command fails and leaves the store as it is. -/
def fails (s : Session m) (e : Error) : Outcome :=
  (.error e, s.store)

/-- The command goes on if the check succeeds. -/
def checked (s : Session m) (check : Except Error Unit) (continued : m Outcome) : m Outcome :=
  match check with
  | .ok () => continued
  | .error e => return s.fails e

/-- The command goes on with the identifier of the task that is designated. -/
def withTask (s : Session m) (id : String) (continued : String → m Outcome) : m Outcome :=
  s.checked (checkId id) <|
    match Store.resolve s.store.tasks id with
    | .ok found => continued found
    | .error e => return s.fails (.store e)

/-- A task is added. -/
def add (s : Session m) (title : String) (category due : Option String) : m Outcome :=
  let check := do
    checkTitle title
    checkGiven checkCategory category
    checkGiven checkDue due
  s.checked check do
    let added ← s.store.add s.system.toSupply s.storage { title, category, due }
    return shown (fun t => ["Added " ++ t.id ++ ": " ++ t.title]) added

/-- The tasks that the filter keeps are listed. -/
def list (s : Session m) (f : Filter) : Outcome :=
  let kept := s.store.tasks.filter f.keeps
  s.shows (if kept.isEmpty then ["No tasks found"] else kept.map taskLine)

/-- A task is completed or opened again. -/
def mark (s : Session m) (id : String) (completed : Bool) : m Outcome :=
  s.withTask id fun found => do
    let marked ← s.store.setCompleted s.system.toSupply s.storage found completed
    return shown (fun t => [(if t.completed then "Completed: " else "Reopened: ") ++ t.title]) marked

/-- A task is removed. -/
def delete (s : Session m) (id : String) : m Outcome :=
  s.withTask id fun found => do
    return shown (fun t => ["Deleted: " ++ t.title]) (← s.store.remove s.storage found)

/-- All tasks are removed, after a question unless that is confirmed already. -/
def clear (s : Session m) (confirmed : Bool) : m Outcome := do
  let count := s.store.tasks.length
  if count = 0 then return s.shows ["No tasks to clear"]
  else
    let answer ←
      if confirmed then pure (.ok true)
      else s.system.confirm ("Clear all " ++ toString count ++ " tasks?")
    match answer with
    | .error reason => return s.fails (.unanswered reason)
    | .ok false => return s.shows []
    | .ok true =>
      return shown (fun n => ["Removed " ++ toString n ++ " tasks"]) (← s.store.removeAll s.storage)

/-- The list of tasks is cleaned. -/
def clean (s : Session m) : m Outcome := do
  let cleaned ← s.store.tidy s.storage
  return shown (fun lines => if lines.isEmpty then ["No changes"] else lines) cleaned

/-- The sample tasks are added. -/
def sample (s : Session m) : m Outcome := do
  let added ← s.store.addSamples s.system.toSupply s.storage
  return shown (fun n => ["Loaded " ++ toString n ++ " sample tasks"]) added

/-- The query that selects every task. -/
def everyTask : String := "SELECT * FROM tasks"

/-- The answer to the query is shown, even if it is an error.  A blank text selects every
task, and the query of the settings is run if no text is given. -/
def query (s : Session m) (text : Option String) : Outcome :=
  let asked :=
    match text with
    | some q => if isBlankText q then everyTask else q
    | none => s.config.defaultQuery
  s.shows [Query.render (Query.answer asked s.store.tasks)]

/-- The counters are shown. -/
def insights (s : Session m) : Outcome :=
  let summary := Insight.summarize s.store.tasks
  let anomalies := Insight.anomalies s.store.tasks
  s.shows ["Total tasks: " ++ toString summary.total,
    "Completed: " ++ toString summary.completed,
    "Completion rate: " ++ toString summary.rate ++ "%",
    "Top category: " ++ summary.topCategory.getD "—", "", "Anomalies:",
    anomalies.missingDueLine, anomalies.duplicatesLine]

/-- The charts are shown. -/
def chart (s : Session m) (category : Option String) : m Outcome :=
  s.checked (checkGiven checkCategory category) do
    match ← Theme.load s.storage with
    | .error fault => return s.fails (.storage fault)
    | .ok theme =>
      let today := (← s.system.now).date
      return s.shows (charts theme.glyph s.store.tasks category today s.config.activityDays)

/-- The tasks or the report on them are written to a file. -/
def exportAs (s : Session m) (kind : ExportKind) (output : Option String) : m Outcome :=
  s.checked (checkGiven checkOutput output) do
    let tasks := s.store.tasks
    let path := output.getD (match kind with
      | .csv => s.config.csvFile
      | .report => s.config.reportFile)
    let content ← match kind with
      | .csv => pure (Export.csv tasks)
      | .report => Export.report tasks <$> s.system.localNow
    match ← s.system.files.write path content.toUTF8 with
    | .error fault => return s.fails (.unwritten path fault)
    | .ok () =>
      return s.shows [match kind with
        | .csv => "Exported " ++ toString tasks.length ++ " tasks to " ++ path
        | .report => "Report written to " ++ path]

/-- The theme is changed to the chosen one, or to the other one. -/
def changeTheme (s : Session m) (chosen : Option Theme) : m Outcome := do
  match ← Theme.load s.storage with
  | .error fault => return s.fails (.storage fault)
  | .ok current =>
    let next := chosen.getD current.toggled
    match ← Theme.save s.storage next with
    | .error fault => return s.fails (.storage fault)
    | .ok () => return s.shows ["Theme: " ++ next.name]

/-- The command is run. -/
def run (s : Session m) : Command → m Outcome
  | .add title category due => s.add title category due
  | .list f => return s.list f
  | .mark id completed => s.mark id completed
  | .delete id => s.delete id
  | .clear confirmed => s.clear confirmed
  | .clean => s.clean
  | .sample => s.sample
  | .query text => return s.query text
  | .insights => return s.insights
  | .chart category => s.chart category
  | .exportAs kind output => s.exportAs kind output
  | .theme chosen => s.changeTheme chosen

end Session

end Agenda.Cli
