import Agenda.Storage.Files

/-!
# Storage

A storage keeps bytes under keys.  One kind is kept in memory.  The other one keeps every
key as a file of its own in a folder: the bytes are written to a temporary file first, which
then takes the place of the old one, so that the last complete write is what is found.
-/

namespace Agenda

open Storage (Fault)

/-- A storage of bytes under keys. -/
structure Storage (m : Type → Type) where
  read : (key : String) → m (Except Fault ByteArray)
  write : (key : String) → (data : ByteArray) → m (Except Fault Unit)
  holds : (key : String) → m Bool
  delete : (key : String) → m (Except Fault Unit)

namespace Storage

/-- The bytes that a storage in memory keeps. -/
abbrev Memory := Bindings ByteArray

/-- The storage in memory.  To delete a key that is not there is no fault. -/
def inMemory {m : Type → Type} [Monad m] : Storage (StateT Memory m) where
  read key := fun memory =>
    return (match memory.get? key with
      | some data => .ok data
      | none => .error (.noValue key), memory)
  write key data := fun memory => return (.ok (), memory.put key data)
  holds key := fun memory => return ((memory.get? key).isSome, memory)
  delete key := fun memory => return (.ok (), memory.drop key)

/-- The name of the temporary file in which the bytes for a key are written first. -/
def temporaryName (id key : String) : String :=
  id ++ "-" ++ key

/-- The bytes are written to the temporary file, which then gets the name of the key.  If that
fails, the temporary file is removed. -/
def replaceFile {m : Type → Type} [Monad m] (files : Files m) (folder temporary key : String)
    (data : ByteArray) : m (Except Fault Unit) := do
  let source := Disk.join folder temporary
  match ← files.write source data with
  | .error fault => return .error fault
  | .ok () =>
    match ← files.rename source (Disk.join folder key) with
    | .ok () => return .ok ()
    | .error fault =>
      discard <| files.remove source
      return .error fault

/-- The storage whose keys are the files of a folder.  The names of temporary files begin
with fresh identifiers. -/
def inFolder {m : Type → Type} [Monad m] (files : Files m) (fresh : m String) (folder : String) :
    Storage m where
  read key := files.read (Disk.join folder key)
  write key data := do replaceFile files folder (temporaryName (← fresh) key) key data
  holds key := files.isPresent (Disk.join folder key)
  delete key := files.remove (Disk.join folder key)

end Storage

end Agenda
