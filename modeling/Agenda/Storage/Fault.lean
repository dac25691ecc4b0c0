/-!
# Faults of storage

What can go wrong when stored bytes are read or written.  Most faults are reported by the
operating system, with a number and a text; the others arise before it is asked.
-/

namespace Agenda.Storage

/-- An error of the operating system: its number, the kind to which it belongs and its
text. -/
structure OsError where
  code : Nat
  kind : String
  text : String
deriving DecidableEq, Repr

namespace OsError

/-- There is no entry of that name. -/
def notFound : OsError := ⟨2, "NotFound", "No such file or directory"⟩

/-- The entry may not be used in that way. -/
def permissionDenied : OsError := ⟨13, "PermissionDenied", "Permission denied"⟩

/-- The entry is in use by the system. -/
def busy : OsError := ⟨16, "ResourceBusy", "Device or resource busy"⟩

/-- There is an entry of that name already. -/
def alreadyExists : OsError := ⟨17, "AlreadyExists", "File exists"⟩

/-- A file stands where a folder is needed. -/
def notADirectory : OsError := ⟨20, "NotADirectory", "Not a directory"⟩

/-- A folder stands where a file is needed. -/
def isADirectory : OsError := ⟨21, "IsADirectory", "Is a directory"⟩

/-- A name or a path has more bytes than the system admits. -/
def nameTooLong : OsError := ⟨36, "InvalidFilename", "File name too long"⟩

end OsError

/-- What went wrong. -/
inductive Fault where
  /-- The operating system reported an error. -/
  | os (e : OsError)
  /-- A storage in memory holds nothing under the key. -/
  | noValue (key : String)
  /-- A path contains a null character. -/
  | nullInPath
deriving DecidableEq, Repr

namespace Fault

/-- The kind of the fault. -/
def kind : Fault → String
  | .os e => e.kind
  | .noValue _ => OsError.notFound.kind
  | .nullInPath => "InvalidInput"

/-- The wording of the fault. -/
def message : Fault → String
  | .os e => e.text ++ " (os error " ++ toString e.code ++ ")"
  | .noValue key => "no value for \x60" ++ key ++ "\x60"
  | .nullInPath => "file name contained an unexpected NUL byte"

/-- The fault with all its parts. -/
def details : Fault → String
  | .os e => "Os \x7b code: " ++ toString e.code ++ ", kind: " ++ e.kind ++ ", message: \"" ++
      e.text ++ "\" \x7d"
  | f => "Error \x7b kind: " ++ f.kind ++ ", message: \"" ++ f.message ++ "\" \x7d"

/-- The fault is the absence of what was asked for. -/
def isNotFound (f : Fault) : Bool :=
  f.kind == OsError.notFound.kind

end Fault

end Agenda.Storage
