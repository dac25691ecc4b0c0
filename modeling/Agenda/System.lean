import Agenda.Storage.Files
import Agenda.Supply

/-!
# The world outside

Everything that a command needs from outside the program, in any monad: fresh identifiers,
clocks, files and somebody to ask.  `World` is a model of that outside, in which identifiers
and clock readings come from sequences that are given in advance.
-/

namespace Agenda

/-- What is outside the program. -/
structure System (m : Type → Type) extends Supply m where
  files : Storage.Files m
  /-- The local time. -/
  localNow : m Calendar.Time
  /-- The answer to a question, or the reason why nobody can be asked. -/
  confirm : (question : String) → m (Except String Bool)

/-- A model of the outside. -/
structure World where
  disk : Storage.Disk
  /-- The identifiers to come and the readings of the clock to come. -/
  identifiers : Nat → String
  readings : Nat → Calendar.Time
  /-- How many of them have been used. -/
  issued : Nat := 0
  read : Nat := 0

namespace World

/-- The next identifier. -/
def fresh : StateM World String :=
  fun w => (w.identifiers w.issued, { w with issued := w.issued + 1 })

/-- The next reading of the clock. -/
def now : StateM World Calendar.Time :=
  fun w => (w.readings w.read, { w with read := w.read + 1 })

/-- An operation on the disk of the world. -/
def onDisk {α : Type} (act : StateM Storage.Disk α) : StateM World α :=
  fun w =>
    let (answer, disk) := act w.disk
    (answer, { w with disk })

/-- The operations on the files of the world. -/
def files : Storage.Files (StateM World) where
  read path := onDisk (Storage.Disk.files.read path)
  write path data := onDisk (Storage.Disk.files.write path data)
  isPresent path := onDisk (Storage.Disk.files.isPresent path)
  remove path := onDisk (Storage.Disk.files.remove path)
  rename source path := onDisk (Storage.Disk.files.rename source path)
  makeFolders path := onDisk (Storage.Disk.files.makeFolders path)

/-- The modelled outside.  Its local time is the universal time, and nobody is there to be
asked. -/
def system : System (StateM World) where
  files := files
  fresh := fresh
  now := now
  localNow := now
  confirm _ := fun w => (.error "The input device is not a TTY", w)

end World

end Agenda
