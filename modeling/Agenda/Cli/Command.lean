import Agenda.Cli.Reading
import Agenda.Task.Filter

/-!
# Commands

What the program can be told to do.
-/

namespace Agenda.Cli

/-- The two kinds of exports. -/
inductive ExportKind where
  | csv
  | report
deriving DecidableEq, Repr

/-- A command with its arguments. -/
inductive Command where
  | add (title : String) (category due : Option String)
  | list (filter : Filter)
  /-- A task is completed or opened again. -/
  | mark (id : String) (completed : Bool)
  | delete (id : String)
  | clear (confirmed : Bool)
  | clean
  | sample
  | query (text : Option String)
  | insights
  | chart (category : Option String)
  | exportAs (kind : ExportKind) (output : Option String)
  | theme (chosen : Option Theme)
deriving DecidableEq, Repr

/-- The status with the name. -/
def statusNamed : String → Status
  | "open" => .open
  | "done" => .done
  | _ => .all

/-- The theme with the name. -/
def themeNamed (name : String) : Theme :=
  if name = Theme.light.name then .light else .dark

/-- The command that was read. -/
def Command.ofReading? (r : Reading) : Option Command :=
  let value := fun name => r.values.get? name
  let id := (value "id").getD ""
  match r.path with
  | ["add"] => some (.add ((value "title").getD "") (value "category") (value "due"))
  | ["list"] =>
    let status := ((value "status").map statusNamed).getD .all
    some (.list { search := value "search", category := value "category", status })
  | ["done"] => some (.mark id true)
  | ["reopen"] => some (.mark id false)
  | ["delete"] => some (.delete id)
  | ["clear"] => some (.clear (value "yes").isSome)
  | ["clean"] => some .clean
  | ["sample"] => some .sample
  | ["query"] => some (.query (value "query"))
  | ["insights"] => some .insights
  | ["chart"] => some (.chart (value "category"))
  | ["export", "csv"] => some (.exportAs .csv (value "output"))
  | ["export", "report"] => some (.exportAs .report (value "output"))
  | ["theme"] => some (.theme ((value "theme").map themeNamed))
  | _ => none

/-- The command that the arguments name. -/
def Command.ofArgs (args : List String) : Except Refusal Command := do
  match ofReading? (← read args) with
  | some command => return command
  | none => throw .missingCommand

end Agenda.Cli
