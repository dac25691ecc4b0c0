import Agenda.Cli.Help
import Agenda.Cli.Run

/-!
# The program

From the arguments of the program to what it prints and the code with which it ends.  The code
is 0 after a command that succeeded, 1 after one that failed, and 2 if the arguments name no
command.
-/

namespace Agenda.Cli

/-- What the program prints and how it ends. -/
structure Result where
  code : Nat
  out : String := ""
  err : String := ""
deriving DecidableEq, Repr

/-- The text with the front before its first line and the margin before the others. -/
def hang (front margin text : String) : String :=
  front ++ String.ofList (text.toList.flatMap fun c => if c = '\n' then c :: margin.toList else [c])

/-- The causes of an error as text, numbered if they are several. -/
def causesText : List String → String
  | [] => ""
  | [cause] => "\n\nCaused by:\n" ++ hang "    " "    " cause
  | causes =>
    let rows := causes.zipIdx.map fun (cause, i) =>
      hang ("    " ++ toString i ++ ": ") "       " cause
    "\n\nCaused by:\n" ++ "\n".intercalate rows

/-- The end of the program with an error. -/
def failure (message : String) (causes : List String) : Result where
  code := 1
  err := "Error: " ++ message ++ causesText causes ++ "\n"

/-- The end of the program if there is no command. -/
def Refusal.result : Refusal → Result
  | .help path => { code := 0, out := helpText path }
  | .version => { code := 0, out := versionText }
  | r => { code := 2, err := r.message }

/-- The end of the program after a command. -/
def Outcome.result (o : Outcome) : Result :=
  match o.1 with
  | .ok text => { code := 0, out := text }
  | .error e => failure e.message e.causes

/-- The end of the program if a command cannot begin. -/
def StartError.result (e : StartError) : Result :=
  failure e.message e.causes

/-- The program with the given base folder, if that is known, and the given arguments. -/
def program {m : Type → Type} [Monad m] (system : System m) (base : Option String)
    (args : List String) : m Result := do
  match Command.ofArgs args with
  | .error refusal => return refusal.result
  | .ok command =>
    match base with
    | none => return StartError.homeless.result
    | some base =>
      match ← Session.start system base with
      | .error e => return e.result
      | .ok session => return Outcome.result (← session.run command)

end Agenda.Cli
