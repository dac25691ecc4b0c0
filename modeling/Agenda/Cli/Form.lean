import Agenda.Theme

/-!
# The form of the command line

Which commands there are, with their options and operands.  A group of commands has no
operand of its own.  Every command understands the options for help and for messages.
-/

namespace Agenda.Cli

/-- What it means that an option is given. -/
inductive Effect where
  /-- Something is switched on. -/
  | switch
  /-- The option has a value: any text, or one of those listed. -/
  | value (choices : Option (List String))
  | showHelp
  | showVersion
deriving DecidableEq, Repr

/-- An option, or an operand if it has no effect but its value. -/
structure Parameter where
  name : String
  short : Option Char := none
  effect : Effect := .value none
  about : String := ""
deriving DecidableEq, Repr

/-- The option is followed by a value. -/
def Parameter.takesValue (p : Parameter) : Bool :=
  match p.effect with
  | .value _ => true
  | _ => false

/-- The text may be the value. -/
def Parameter.admits (p : Parameter) (value : String) : Bool :=
  match p.effect with
  | .value (some choices) => choices.contains value
  | _ => true

/-- The one operand that a command has. -/
structure Operand extends Parameter where
  required : Bool := true
deriving DecidableEq, Repr

/-- The form of a command, or of a group of commands. -/
structure Form where
  about : String := ""
  options : List Parameter := []
  operand : Option Operand := none
  /-- The commands of a group by name. -/
  parts : List (String × Form) := []

namespace Form

/-- The form is that of a group of commands. -/
def isGroup (f : Form) : Bool :=
  !f.parts.isEmpty

/-- The command of the group with that name. -/
def part? (f : Form) (name : String) : Option Form :=
  f.parts.lookup name

end Form

/-! ### The commands -/

/-- The option to show messages about what is done. -/
def verboseOption : Parameter :=
  { name := "verbose", short := some 'v', effect := .switch, about := "Print debug logs to stderr" }

/-- The option to show help. -/
def helpOption : Parameter :=
  { name := "help", short := some 'h', effect := .showHelp, about := "Print help" }

/-- The option to show the version. -/
def versionOption : Parameter :=
  { name := "version", short := some 'V', effect := .showVersion, about := "Print version" }

/-- The form of a command with the given options besides those of every command. -/
def command (about : String) (options : List Parameter := []) (operand : Option Operand := none) :
    Form where
  about := about
  options := options ++ [verboseOption, helpOption]
  operand := operand

/-- The operand that designates a task. -/
def idOperand : Operand :=
  { name := "id", about := "Task id or a unique prefix of it" }

/-- The option for the file of an export. -/
def outputOption (setting : String) : Parameter :=
  { name := "output", short := some 'o'
    about := "Output file. Defaults to \x60export." ++ setting ++ "\x60 from config.yaml" }

/-- The commands for exports. -/
def exportForm : Form where
  about := "Export tasks to a file"
  options := [verboseOption, helpOption]
  parts := [
    ("csv", command "Write all tasks as CSV" [outputOption "csv_file"]),
    ("report", command "Write the plain-text analytics report" [outputOption "report_file"])]

/-- The names of the states by which tasks are listed. -/
def statusNames : List String := ["all", "open", "done"]

/-- The names of the themes. -/
def themeNames : List String := [Theme.dark.name, Theme.light.name]

/-- All commands. -/
def rootForm : Form where
  options := [verboseOption, helpOption, versionOption]
  parts := [
    ("add", command "Add a task"
      [{ name := "category", short := some 'c', about := "Task category" },
        { name := "due", short := some 'd', about := "Due date (YYYY-MM-DD)" }]
      (some { name := "title", about := "Task title" })),
    ("list", command "List tasks"
      [{ name := "search", short := some 's',
         about := "Only titles containing this text (case-insensitive)" },
        { name := "category", short := some 'c', about := "Only tasks in this category" },
        { name := "status", effect := .value (some statusNames) }]),
    ("done", command "Mark a task as done" [] (some idOperand)),
    ("reopen", command "Mark a task as not done" [] (some idOperand)),
    ("delete", command "Delete a task" [] (some idOperand)),
    ("clear", command "Delete all tasks"
      [{ name := "yes", short := some 'y', effect := .switch, about := "Auto confirm" }]),
    ("clean", command "Fill missing categories and remove duplicate tasks"),
    ("sample", command "Add a few sample tasks"),
    ("query", command "Run a query, e.g. \"SELECT * FROM tasks WHERE category = 'Work'\"" []
      (some { name := "query", about := "Defaults to \x60default_query\x60 from config.yaml",
              required := false })),
    ("insights", command "Show totals and anomalies"),
    ("chart", command "Draw completion, category and activity charts"
      [{ name := "category", short := some 'c',
         about := "Restrict the completion chart to one category" }]),
    ("export", exportForm),
    ("theme", command "Show or change the color theme. Toggles when no theme is given" []
      (some { name := "theme", effect := .value (some themeNames), required := false }))]

end Agenda.Cli
