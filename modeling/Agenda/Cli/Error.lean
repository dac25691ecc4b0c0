import Agenda.Store.Error

/-!
# Errors of commands

Why a command failed.
-/

namespace Agenda.Cli

open Storage (Fault OsError)

/-- Why a command failed. -/
inductive Error where
  /-- An argument is not accepted. -/
  | invalid (field reason : String)
  | store (e : Store.Error)
  /-- The theme cannot be read or written. -/
  | storage (fault : Fault)
  /-- The file of an export cannot be written. -/
  | unwritten (path : String) (fault : Fault)
  /-- A question got no answer. -/
  | unanswered (reason : String)
deriving DecidableEq, Repr

namespace Error

/-- How a fault of the storage is put to the user. -/
def faultText (fault : Fault) : String :=
  if fault.isNotFound then "File not found"
  else if fault.kind = OsError.permissionDenied.kind then "Permission denied"
  else fault.message

/-- The wording of an error. -/
def message : Error → String
  | .invalid field reason => "Validation error: " ++ field ++ ": " ++ reason
  | .store e => "Task store error: " ++ e.message
  | .storage fault => "Storage operation failed: " ++ faultText fault
  | .unwritten path fault =>
    "Export failed: couldnt write " ++ path ++ ": " ++ fault.message
  | .unanswered reason => "Invalid input: " ++ reason

/-- The wording of what led to the error. -/
def causes : Error → List String
  | .store e => e.message :: e.causes
  | _ => []

end Error

end Agenda.Cli
