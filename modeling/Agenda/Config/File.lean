import Agenda.Config.Format
import Agenda.Text.Damage

/-!
# The file of settings

The settings are kept in a file of the base folder.  It is written with the defaults when it
is missing.  When it is accepted but is not what would be written, it is written anew; when
it is not accepted, it stays as it is.
-/

namespace Agenda.Config

open Storage (Fault Files)

/-- The key under which the settings are kept. -/
def fileKey : String := "config.yaml"

/-- Why settings cannot be loaded. -/
inductive Error where
  /-- The base folder cannot be made. -/
  | folder (path : String) (fault : Fault)
  /-- The file cannot be read or written. -/
  | storage (fault : Fault)
  | notText (damage : Text.Damage)
  /-- The text does not describe settings. -/
  | malformed
  | rejected (problem : Problem)
deriving DecidableEq, Repr

namespace Error

/-- The wording of an error. -/
def message : Error → String
  | .folder path _ => "couldnt create base directory " ++ path
  | .storage fault => fault.message
  | .notText _ => "config file is not valid utf8"
  | .malformed => "config is malformed"
  | .rejected problem => problem.message

/-- The wording of what led to the error. -/
def causes : Error → List String
  | .folder _ fault => [fault.message]
  | .notText damage => [damage.message]
  | _ => []

end Error

/-- The settings that the bytes of a file describe, with the text that the bytes are. -/
def ofBytes (data : ByteArray) : Except Error (String × Config) := do
  match String.fromUTF8? data with
  | none => throw (.notText (Text.damage data))
  | some text =>
    match read? text with
    | none => throw .malformed
    | some c =>
      match c.problem? with
      | some problem => throw (.rejected problem)
      | none => return (text, c)

variable {m : Type → Type} [Monad m]

/-- The settings are written. -/
def store (storage : Storage m) (c : Config) : m (Except Fault Unit) :=
  storage.write fileKey c.write.toUTF8

/-- The bytes of the file, which is written with the defaults if it is missing. -/
def fetch (storage : Storage m) : m (Except Fault ByteArray) := do
  if ← storage.holds fileKey then storage.read fileKey
  else
    match ← store storage {} with
    | .error fault => return .error fault
    | .ok () => storage.read fileKey

/-- The settings that are kept in the storage. -/
def loadFrom (storage : Storage m) : m (Except Error Config) := do
  match ← fetch storage with
  | .error fault => return .error (.storage fault)
  | .ok data =>
    match ofBytes data with
    | .error e => return .error e
    | .ok (text, c) =>
      if text = c.write then return .ok c
      else
        match ← store storage c with
        | .error fault => return .error (.storage fault)
        | .ok () => return .ok c

/-- The settings that are kept in the folder, which is made if it is missing. -/
def load (files : Files m) (fresh : m String) (folder : String) : m (Except Error Config) := do
  match ← files.makeFolders folder with
  | .error fault => return .error (.folder folder fault)
  | .ok () => loadFrom (Storage.inFolder files fresh folder)

/-- The settings are kept in the folder, which is made if it is missing. -/
def save (files : Files m) (fresh : m String) (folder : String) (c : Config) :
    m (Except Fault Unit) := do
  match ← files.makeFolders folder with
  | .error fault => return .error fault
  | .ok () => store (Storage.inFolder files fresh folder) c

/-- The base folder: the one that is asked for, or one within the home folder, if that is
known. -/
def baseFolder? (asked home : Option String) : Option String :=
  asked.or (home.map (· ++ "/.local/share/taskly"))

end Agenda.Config
