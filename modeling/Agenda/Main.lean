import Agenda.Cli.Program
import Agenda.Identifier
import Std.Time

/-!
# The program on a real system

The outside is the operating system: its files, its clock and its random numbers, and the user
at the terminal.
-/

namespace Agenda.Real

open Storage (Fault OsError)

/-- The errors that the operations on files are known to meet. -/
def knownErrors : List OsError :=
  [.notFound, .permissionDenied, .busy, .alreadyExists, .notADirectory, .isADirectory,
    .nameTooLong]

/-- The number of an error, which some operations report with a negative sign. -/
def errorNumber (code : UInt32) : Nat :=
  if code.toNat < Nat.pow 2 31 then code.toNat else Nat.pow 2 32 - code.toNat

/-- The error with the number, or one of no special kind with the text. -/
def errorOf (code : UInt32) (text : String) : OsError :=
  let number := errorNumber code
  (knownErrors.find? (·.code == number)).getD ⟨number, "Uncategorized", text⟩

/-- The fault that an operation reports. -/
def faultOf : IO.Error → Fault
  | .alreadyExists _ code text | .otherError code text | .resourceBusy code text
  | .resourceVanished code text | .unsupportedOperation code text | .hardwareFault code text
  | .unsatisfiedConstraints code text | .illegalOperation code text | .protocolError code text
  | .timeExpired code text | .interrupted _ code text | .noFileOrDirectory _ code text
  | .invalidArgument _ code text | .permissionDenied _ code text
  | .resourceExhausted _ code text | .inappropriateType _ code text
  | .noSuchThing _ code text => .os (errorOf code text)
  | .unexpectedEof => .os ⟨5, "UnexpectedEof", "unexpected end of file"⟩
  | .userError text => .os ⟨5, "Other", text⟩

/-- The operation with its fault as an answer. -/
def attempt {α : Type} (act : IO α) : IO (Except Fault α) := do
  match ← act.toBaseIO with
  | .ok answer => return .ok answer
  | .error e => return .error (faultOf e)

/-- There is something at the path, though it may not be accessible. -/
def isPresent (path : String) : IO Bool := do
  match ← attempt (IO.FS.Handle.mk path .read) with
  | .ok _ => return true
  | .error fault =>
    return fault != .os .notFound && fault != .os .notADirectory && fault != .os .nameTooLong

/-- The files of the system. -/
def files : Storage.Files IO where
  read path := attempt (IO.FS.readBinFile path)
  write path data := attempt (IO.FS.writeBinFile path data)
  isPresent := isPresent
  remove path := attempt (IO.FS.removeFile path)
  rename source path := attempt (IO.FS.rename source path)
  makeFolders path := attempt (IO.FS.createDirAll path)

/-- A reading of a clock as a time. -/
def timeOf (reading : Std.Time.PlainDateTime) : IO Calendar.Time := do
  let (d, t) := (reading.date, reading.time)
  match Calendar.Date.ofParts? d.year.toInt d.month.val.toNat d.day.val.toNat with
  | some date =>
    return ⟨date, t.hour.val.toNat, t.minute.val.toNat, t.second.val.toNat,
      t.nanosecond.val.toNat / 1000000⟩
  | none => throw (IO.userError "the clock is not set")

/-- The universal time. -/
def now : IO Calendar.Time := do
  timeOf (.ofWallTime (.ofTimestamp (← Std.Time.Timestamp.now) .zero))

/-- A fresh identifier. -/
def fresh : IO String := do
  let milliseconds := (← Std.Time.Timestamp.now).toMillisecondsSinceUnixEpoch.val.toNat
  let random := (← IO.getRandomBytes 10).toList.foldl (fun n b => n * 256 + b.toNat) 0
  return Identifier.make milliseconds random

/-- The answers that count as yes. -/
def affirmations : List String := ["y", "yes"]

/-- The user is asked at the terminal, if there is one. -/
def confirm (question : String) : IO (Except String Bool) := do
  let input ← IO.getStdin
  if ← input.isTty then
    IO.print (question ++ " (y/n) ")
    (← IO.getStdout).flush
    return .ok (affirmations.contains (Text.lower (Text.trim (← input.getLine))))
  else
    return .error "The input device is not a TTY"

/-- The real outside. -/
def system : System IO where
  fresh := fresh
  now := now
  files := files
  localNow := do timeOf (← Std.Time.PlainDateTime.now)
  confirm := confirm

end Agenda.Real

/-- The program. -/
def main (args : List String) : IO UInt32 := do
  let base := Agenda.Config.baseFolder? (← IO.getEnv "TASKLY_BASE_PATH") (← IO.getEnv "HOME")
  let result ← Agenda.Cli.program Agenda.Real.system base args
  IO.print result.out
  IO.eprint result.err
  return result.code.toUInt32
