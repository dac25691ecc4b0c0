import Agenda.Storage.Disk

/-!
# Access to files

The operations on files that this library needs, in any monad: on a real file system they
act on it, and on a disk they change the state.
-/

namespace Agenda.Storage

/-- The operations on files. -/
structure Files (m : Type → Type) where
  read : (path : String) → m (Except Fault ByteArray)
  write : (path : String) → (data : ByteArray) → m (Except Fault Unit)
  isPresent : (path : String) → m Bool
  remove : (path : String) → m (Except Fault Unit)
  rename : (source path : String) → m (Except Fault Unit)
  makeFolders : (path : String) → m (Except Fault Unit)

/-- The new state of a disk, or the old one with the fault. -/
def Disk.attempt (change : Disk → Except Fault Disk) : StateM Disk (Except Fault Unit) :=
  fun d => match change d with
    | .ok changed => (.ok (), changed)
    | .error fault => (.error fault, d)

/-- The operations on the files of a disk. -/
def Disk.files : Files (StateM Disk) where
  read path := fun d => (d.read path, d)
  write path data := Disk.attempt (·.write path data)
  isPresent path := fun d => (d.isPresent path, d)
  remove path := Disk.attempt (·.remove path)
  rename source path := Disk.attempt (·.rename source path)
  makeFolders path := Disk.attempt (·.makeFolders path)

end Agenda.Storage
