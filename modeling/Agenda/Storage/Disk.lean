import Agenda.Bindings
import Agenda.Storage.Fault

/-!
# Disks

A model of the part of a file system that this library uses: a tree of folders and files,
and the folder from which relative paths start.  The operations follow the rules of the
operating system.  A name has at most 255 bytes and a path, however it goes, at most 4095.  A
path that ends with a slash is no path of a file, and a file cannot take the place of a
folder.  An operation that fails leaves the disk as it is.
-/

namespace Agenda.Storage

/-- A file with its content or a folder with its entries. -/
inductive Node where
  | file (data : ByteArray)
  | folder (entries : List (String × Node))

/-- The way from the root to a folder or file: the names of the entries to follow. -/
abbrev Location := List String

namespace Node

/-- What the entries of a node are; a file has none. -/
def entries : Node → Bindings Node
  | .file _ => []
  | .folder entries => entries

/-- The node at the location. -/
def get? (n : Node) : Location → Option Node
  | [] => some n
  | name :: location => (Bindings.get? name n.entries).bind (get? · location)

/-- The node after the entries of the folder at the location are changed. -/
def modify (change : Bindings Node → Bindings Node) : Location → Node → Node
  | _, .file data => .file data
  | [], .folder entries => .folder (change entries)
  | name :: location, .folder entries =>
    match Bindings.get? name entries with
    | some child => .folder (Bindings.put name (child.modify change location) entries)
    | none => .folder entries

end Node

/-- A tree of folders and files with the location of the working folder. -/
structure Disk where
  root : Node
  working : Location := []

namespace Disk

/-! ### Paths -/

/-- The greatest number of bytes in a name. -/
def maxNameSize : Nat := 255

/-- The greatest number of bytes in a path. -/
def maxPathSize : Nat := 4095

/-- The texts between the slashes of a path. -/
def splitSlashes : List Char → List (List Char)
  | [] => [[]]
  | c :: rest =>
    if c = '/' then [] :: splitSlashes rest
    else match splitSlashes rest with
      | [] => [[c]]
      | part :: parts => (c :: part) :: parts

/-- The names that a path goes through.  Slashes that are repeated or stand at either end
count for nothing. -/
def pathNames (path : String) : List String :=
  ((splitSlashes path.toList).filter (!·.isEmpty)).map String.ofList

/-- The path starts at the root. -/
def isAbsolute (path : String) : Bool :=
  path.toList.head? == some '/'

/-- The path that leads to the name within the folder with the given path.  An absolute name
is taken as it is. -/
def join (folder name : String) : String :=
  if isAbsolute name || folder.isEmpty then name
  else if folder.toList.getLast? == some '/' then folder ++ name
  else folder ++ "/" ++ name

/-- Where a path leads. -/
inductive Target where
  /-- A folder, reached without naming it last. -/
  | folder (location : Location)
  /-- An entry of the folder at the location, which may be missing.  The path may end with a
  slash after its name. -/
  | entry (location : Location) (name : String) (slash : Bool)

/-- The entry of that name in the folder at the location. -/
def lookup (d : Disk) (location : Location) (name : String) : Except Fault (Option Node) :=
  if maxNameSize < name.utf8ByteSize then .error (.os .nameTooLong)
  else .ok (d.root.get? (location ++ [name]))

/-- The location of the folder to which the names lead from the given location. -/
def follow (d : Disk) : Location → List String → Except Fault Location
  | location, [] => .ok location
  | location, "." :: names => d.follow location names
  | location, ".." :: names => d.follow location.dropLast names
  | location, name :: names => do
    match ← d.lookup location name with
    | none => .error (.os .notFound)
    | some (.file _) => .error (.os .notADirectory)
    | some (.folder _) => d.follow (location ++ [name]) names

/-- What is wrong with the path, whatever is on the disk. -/
def pathFault? (path : String) : Option Fault :=
  if path.contains '\x00' then some .nullInPath
  else if maxPathSize < path.utf8ByteSize then some (.os .nameTooLong)
  else none

/-- Where the path leads. -/
def target (d : Disk) (path : String) : Except Fault Target :=
  if let some fault := pathFault? path then .error fault
  else if path.isEmpty then .error (.os .notFound)
  else
    let start := if isAbsolute path then [] else d.working
    let names := pathNames path
    let slash := path.toList.getLast? == some '/'
    match names.getLast? with
    | none | some "." | some ".." => (d.follow start names).map .folder
    | some name => (d.follow start names.dropLast).map fun location => .entry location name slash

/-! ### Operations -/

/-- The content of the file. -/
def read (d : Disk) (path : String) : Except Fault ByteArray := do
  match ← d.target path with
  | .folder _ => .error (.os .isADirectory)
  | .entry location name slash =>
    match ← d.lookup location name with
    | none => .error (.os .notFound)
    | some (.folder _) => .error (.os .isADirectory)
    | some (.file data) => if slash then .error (.os .notADirectory) else .ok data

/-- There is a file or a folder at the path. -/
def isPresent (d : Disk) (path : String) : Bool :=
  match d.target path with
  | .error _ => false
  | .ok (.folder _) => true
  | .ok (.entry location name slash) =>
    match d.lookup location name with
    | .ok (some (.folder _)) => true
    | .ok (some (.file _)) => !slash
    | _ => false

/-- The disk after the entries of the folder at the location are changed. -/
def modify (d : Disk) (location : Location) (change : Bindings Node → Bindings Node) : Disk :=
  { d with root := d.root.modify change location }

/-- The disk after the file is created or its content replaced. -/
def write (d : Disk) (path : String) (data : ByteArray) : Except Fault Disk := do
  match ← d.target path with
  | .folder _ => .error (.os .isADirectory)
  | .entry location name slash =>
    if slash then .error (.os .isADirectory)
    else match ← d.lookup location name with
      | some (.folder _) => .error (.os .isADirectory)
      | _ => .ok (d.modify location (·.put name (.file data)))

/-- The disk after the file is removed. -/
def remove (d : Disk) (path : String) : Except Fault Disk := do
  match ← d.target path with
  | .folder _ => .error (.os .isADirectory)
  | .entry location name slash =>
    match ← d.lookup location name with
    | none => .error (.os .notFound)
    | some (.folder _) => .error (.os .isADirectory)
    | some (.file _) =>
      if slash then .error (.os .notADirectory) else .ok (d.modify location (·.drop name))

/-- The disk after the file gets another path, in place of the file that may be there. -/
def rename (d : Disk) (source path : String) : Except Fault Disk := do
  match ← d.target source, ← d.target path with
  | .entry origin oldName _, .entry location name slash =>
    match ← d.lookup origin oldName with
    | some (.file data) =>
      let there ← d.lookup location name
      if slash then .error (.os .notADirectory)
      else match there with
        | some (.folder _) => .error (.os .isADirectory)
        | _ =>
          .ok ((d.modify origin (·.drop oldName)).modify location (·.put name (.file data)))
    | _ => .error (.os .notFound)
  | _, _ => .error (.os .busy)

/-- The disk after the folders to which the names lead from the location are there. -/
def makeFoldersFrom (d : Disk) : Location → List String → Except Fault Disk
  | _, [] => .ok d
  | location, "." :: names => d.makeFoldersFrom location names
  | location, ".." :: names => d.makeFoldersFrom location.dropLast names
  | location, name :: names => do
    match ← d.lookup location name with
    | none =>
      let made := d.modify location (·.put name (.folder []))
      made.makeFoldersFrom (location ++ [name]) names
    | some (.folder _) => d.makeFoldersFrom (location ++ [name]) names
    | some (.file _) =>
      .error (.os (if names.isEmpty then .alreadyExists else .notADirectory))
termination_by _ names => names.length

/-- The disk after the folder at the path and those above it are there. -/
def makeFolders (d : Disk) (path : String) : Except Fault Disk :=
  if let some fault := pathFault? path then .error fault
  else d.makeFoldersFrom (if isAbsolute path then [] else d.working) (pathNames path)

end Disk

end Agenda.Storage
