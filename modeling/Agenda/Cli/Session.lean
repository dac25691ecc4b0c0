import Agenda.Config.File
import Agenda.Store.Action
import Agenda.System

/-!
# Sessions

What a command works with: the outside, the settings, the storage and the list of tasks.
-/

namespace Agenda.Cli

/-- All that a command works with. -/
structure Session (m : Type → Type) where
  system : System m
  storage : Storage m
  config : Config
  store : Store

/-- Why there is no session. -/
inductive StartError where
  /-- There is no base folder because the home folder is not known. -/
  | homeless
  | config (e : Config.Error)
  /-- The base folder cannot be made. -/
  | folder (fault : Storage.Fault)
  /-- The list of tasks cannot be loaded. -/
  | store (e : Store.Error)
deriving DecidableEq, Repr

namespace StartError

/-- The wording of an error. -/
def message : StartError → String
  | .homeless => "home directory path is empty"
  | .config e => e.message
  | .folder fault => fault.message
  | .store e => e.message

/-- The wording of what led to the error. -/
def causes : StartError → List String
  | .homeless | .folder _ => []
  | .config e => e.causes
  | .store e => e.causes

end StartError

/-- The session for the base folder: the settings and the list of tasks that are kept in it. -/
def Session.start {m : Type → Type} [Monad m] (system : System m) (base : String) :
    m (Except StartError (Session m)) := do
  match ← Config.load system.files system.fresh base with
  | .error e => return .error (.config e)
  | .ok config =>
    match ← system.files.makeFolders base with
    | .error fault => return .error (.folder fault)
    | .ok () =>
      let storage := Storage.inFolder system.files system.fresh base
      match ← Store.load storage config.storeOptions with
      | .error e => return .error (.store e)
      | .ok store => return .ok { system, storage, config, store }

end Agenda.Cli
