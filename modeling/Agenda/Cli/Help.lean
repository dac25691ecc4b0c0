import Agenda.Cli.Chart
import Agenda.Cli.Reading

/-!
# Help

The text that explains a command: how it is called, and its commands, operands and options,
each with what it is about.
-/

namespace Agenda.Cli

/-- The name of the program. -/
def programName : String := "taskly"

/-- The name and the version of the program. -/
def versionText : String := programName ++ " 0.1.0\n"

/-- The name of a value as it stands in for one. -/
def placeholder (name : String) : String :=
  name.map Char.toUpper

/-- The note about which values are admitted. -/
def Parameter.choicesNote (p : Parameter) : List String :=
  match p.effect with
  | .value (some choices) => ["[possible values: " ++ ", ".intercalate choices ++ "]"]
  | _ => []

/-- What a parameter is about, with notes. -/
def describe (p : Parameter) (notes : List String) : String :=
  " ".intercalate (([p.about].filter (!·.isEmpty)) ++ notes ++ p.choicesNote)

/-- An option as it is written on the command line. -/
def Parameter.spelling (p : Parameter) : String :=
  (match p.short with
    | some c => "-" ++ String.singleton c ++ ", "
    | none => "    ") ++ "--" ++ p.name ++
    (if p.takesValue then " <" ++ placeholder p.name ++ ">" else "")

/-- An operand as it stands in the usage. -/
def Operand.spelling (p : Operand) : String :=
  if p.required then "<" ++ placeholder p.name ++ ">" else "[" ++ placeholder p.name ++ "]"

/-- The option is one of several values, of which the first is the default. -/
def Parameter.defaultNote (p : Parameter) : List String :=
  match p.effect with
  | .value (some (first :: _)) => ["[default: " ++ first ++ "]"]
  | _ => []

/-- A heading with rows of two columns below; nothing without rows. -/
def helpSection (heading : String) (rows : List (String × String)) : List String :=
  if rows.isEmpty then []
  else
    let width := greatestOf (rows.map (·.1.length))
    ["", heading ++ ":"] ++ rows.map fun (item, text) => "  " ++ padLabel width item ++ "  " ++ text

/-- The rows of the commands of a group. -/
def Form.commandRows (f : Form) : List (String × String) :=
  if f.isGroup then
    f.parts.map (fun (name, part) => (name, part.about)) ++
      [("help", "Print this message or the help of the given subcommand(s)")]
  else []

/-- How the command with the names is called. -/
def Form.usage (f : Form) (path : List String) : String :=
  " ".intercalate <| ["Usage:", programName] ++ path ++ ["[OPTIONS]"] ++
    (if f.isGroup then ["<COMMAND>"] else []) ++ (f.operand.map (·.spelling)).toList

/-- The lines that explain the command. -/
def Form.helpLines (f : Form) (path : List String) : List String :=
  (if f.about.isEmpty then [] else [f.about, ""]) ++ [f.usage path] ++
    helpSection "Commands" f.commandRows ++
    helpSection "Arguments" (f.operand.map fun p =>
      (p.spelling, describe p.toParameter [])).toList ++
    helpSection "Options" (f.options.map fun p => (p.spelling, describe p p.defaultNote))

/-- The command of the group that has the names. -/
def Form.descendant (f : Form) : List String → Form
  | [] => f
  | name :: rest =>
    match f.part? name with
    | some part => part.descendant rest
    | none => f

/-- The text that explains the command with the names. -/
def helpText (path : List String) : String :=
  String.join (((rootForm.descendant path).helpLines path).map (· ++ "\n"))

/-- The wording of a refusal. -/
def Refusal.message : Refusal → String
  | .help path | .nothingGiven path => helpText path
  | .version => versionText
  | .missingCommand => "error: a subcommand is required but one was not provided\n"
  | .unknownCommand => "error: unrecognized subcommand\n"
  | .unknownArgument => "error: unexpected argument found\n"
  | .missingArgument => "error: a required argument was not provided\n"
  | .invalidValue => "error: a value is missing or is not one of the possible values\n"
  | .unneededValue => "error: an option without a value was given one\n"
  | .repeatedArgument => "error: an argument cannot be used multiple times\n"

end Agenda.Cli
