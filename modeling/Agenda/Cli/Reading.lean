import Agenda.Bindings
import Agenda.Cli.Form

/-!
# Reading the command line

The arguments are read from left to right by the form of the commands.  An option is written
with two hyphens and its name, or with one hyphen and its letter; several letters may share a
hyphen.  A value follows as the next argument, or directly behind the letter or an equals
sign.  After two hyphens alone, all arguments are operands.

The value of an option or operand is looked at when the next one begins.  This decides which
of two faults is reported.
-/

namespace Agenda.Cli

/-- Why a command line does not name a command to run. -/
inductive Refusal where
  /-- Help is asked for, about the command with these names. -/
  | help (path : List String)
  | version
  /-- Nothing is given from which one of the commands in the group could be told. -/
  | nothingGiven (path : List String)
  | missingCommand
  | unknownCommand
  | unknownArgument
  | missingArgument
  /-- A value is missing, or is not one of the choices. -/
  | invalidValue
  /-- A value is given to an option without one. -/
  | unneededValue
  | repeatedArgument
deriving DecidableEq, Repr

/-- What the command line says: the names of the command, and the values of its options and
its operand.  Options without a value have an empty text. -/
structure Reading where
  path : List String
  values : Bindings String
  verbose : Bool
deriving DecidableEq, Repr

/-- How far the arguments of a command have been read. -/
structure Level where
  /-- The names of the command. -/
  path : List String := []
  /-- Messages are asked for before the name of the command. -/
  verboseBefore : Bool := false
  values : Bindings String := []
  /-- The last option or operand, whose value may still be missing. -/
  pending : Option (Parameter × Option String) := none
  operandTaken : Bool := false
  onlyOperands : Bool := false

namespace Level

/-- The next argument is the value of an option. -/
def awaitsValue (l : Level) : Bool :=
  match l.pending with
  | some (_, none) => true
  | _ => false

/-- The value of the last option or operand is looked at. -/
def settle (l : Level) : Except Refusal Level :=
  match l.pending with
  | none => .ok l
  | some (_, none) => .error .invalidValue
  | some (p, some value) =>
    if (l.values.get? p.name).isSome then .error .repeatedArgument
    else if p.admits value then
      .ok { l with pending := none, values := l.values.put p.name value }
    else .error .invalidValue

/-- The option is given together with its value. -/
def set (l : Level) (p : Parameter) (value : String) : Except Refusal Level := do
  let l ← l.settle
  settle { l with pending := some (p, some value) }

/-- The option is given, and its value is to follow. -/
def await (l : Level) (p : Parameter) : Except Refusal Level := do
  let l ← l.settle
  return { l with pending := some (p, none) }

/-- The option without a value is given. -/
def switch (l : Level) (p : Parameter) : Except Refusal Level :=
  match p.effect with
  | .showHelp => do
    let l ← l.settle
    throw (.help l.path)
  | .showVersion => do
    let _ ← l.settle
    throw .version
  | _ => l.set p ""

/-- The option with the text behind two hyphens. -/
def long (f : Form) (l : Level) (text : List Char) : Except Refusal Level :=
  let name := String.ofList (text.takeWhile (· ≠ '='))
  let value := text.dropWhile (· ≠ '=')
  match f.options.find? (·.name == name) with
  | none => .error .unknownArgument
  | some p =>
    if p.takesValue then
      if value.isEmpty then l.await p else l.set p (String.ofList (value.drop 1))
    else if value.isEmpty then l.switch p
    else .error .unneededValue

/-- The options with the letters behind one hyphen. -/
def short (f : Form) (l : Level) : List Char → Except Refusal Level
  | [] => .ok l
  | c :: rest =>
    match f.options.find? (·.short == some c) with
    | none => .error .unknownArgument
    | some p =>
      if p.takesValue then
        if rest.isEmpty then l.await p
        else l.set p (String.ofList (if rest.head? = some '=' then rest.drop 1 else rest))
      else (l.switch p).bind fun l => short f l rest

/-- The fault of an argument that is no operand. -/
def misplaced (f : Form) (l : Level) (arg : String) : Refusal :=
  if f.isGroup && !(l.onlyOperands && ((f.part? arg).isSome || arg == "help")) then
    .unknownCommand
  else .unknownArgument

/-- The operand. -/
def operand (f : Form) (l : Level) (arg : String) : Except Refusal Level :=
  match f.operand with
  | none => .error (l.misplaced f arg)
  | some p =>
    if l.operandTaken then .error (l.misplaced f arg)
    else do
      let l ← l.settle
      return { l with pending := some (p.toParameter, some arg), operandTaken := true }

/-- An argument that is not the name of a command. -/
def accept (f : Form) (l : Level) (arg : String) : Except Refusal Level :=
  match arg.toList with
  | '-' :: '-' :: text => l.long f text
  | '-' :: c :: text => l.short f (c :: text)
  | _ =>
    match l.pending with
    | some (p, none) => .ok { l with pending := some (p, some arg) }
    | _ => l.operand f arg

/-- Messages are asked for. -/
def verbose (l : Level) : Bool :=
  l.verboseBefore || (l.values.get? verboseOption.name).isSome

/-- The arguments of the command with the given name begin. -/
def enter (l : Level) (name : String) : Level :=
  { path := l.path ++ [name], verboseBefore := l.verbose }

/-- The end of the arguments. -/
def finish (f : Form) (l : Level) : Except Refusal Level := do
  let l ← l.settle
  if f.isGroup then
    throw (if l.values.isEmpty then .nothingGiven l.path else .missingCommand)
  match f.operand with
  | some p =>
    if p.required && !l.operandTaken then throw .missingArgument
    else return l
  | none => return l

end Level

/-- What is shown when help is asked for about the command with further names. -/
def helpOn (f : Form) (path : List String) : List String → Refusal
  | [] => .help path
  | name :: rest =>
    match f.part? name with
    | some part => helpOn part (path ++ [name]) rest
    | none =>
      if f.isGroup && name == "help" then helpOn {} (path ++ [name]) rest
      else .unknownCommand

/-- Reads the arguments of a command. -/
def readFrom (f : Form) (l : Level) : List String → Except Refusal Reading
  | [] => do
    let l ← l.finish f
    return ⟨l.path, l.values, l.verbose⟩
  | arg :: rest =>
    if l.onlyOperands then (l.operand f arg).bind fun l => readFrom f l rest
    else
      match if l.awaitsValue then none else f.part? arg with
      | some part => readFrom part (l.enter arg) rest
      | none =>
        if !l.awaitsValue && f.isGroup && arg == "help" then .error (helpOn f l.path rest)
        else if arg == "--" then readFrom f { l with onlyOperands := true } rest
        else (l.accept f arg).bind fun l => readFrom f l rest

/-- Reads the arguments of the program. -/
def read (args : List String) : Except Refusal Reading :=
  readFrom rootForm {} args

end Agenda.Cli
