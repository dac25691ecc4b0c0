import Agenda.Task.Basic
import Agenda.Json.Document

/-!
# Tasks as JSON

A list of tasks is written as an array of objects whose members are the fields of a task in
a fixed order.  There are two layouts, which differ only in the blanks between the tokens:
the compact one is for storing and the indented one for showing.

When tasks are read, a task may also be an array of its fields in that order.  Identifier,
title and creation time have to be there; the other fields have defaults.  Unknown members
are passed over and repeated known ones are refused.  Only the completion time may be null.
-/

namespace Agenda

open Json (Document)

namespace Task

/-- The keys of the members of a task, in the order in which they are written. -/
def keys : List String :=
  ["id", "title", "category", "due", "createdAt", "completed", "completedAt"]

/-! ### Writing -/

/-- The blanks that a layout puts between the tokens of a list of tasks. -/
structure Layout where
  /-- What precedes a task. -/
  item : List Char
  /-- What precedes a member of a task. -/
  member : List Char
  /-- What stands between a colon and a value. -/
  value : List Char
  /-- What precedes the end of a task. -/
  itemEnd : List Char
  /-- What precedes the end of the list. -/
  listEnd : List Char

/-- No blanks at all. -/
def Layout.compact : Layout :=
  ⟨[], [], [], [], []⟩

/-- One line for every bracket and member, indented by two blanks a level. -/
def Layout.indented : Layout :=
  ⟨"\n  ".toList, "\n    ".toList, [' '], "\n  ".toList, ['\n']⟩

/-- The parts between brackets, each after the same blanks, with commas between them. -/
def enclose (opening closing : Char) (before after : List Char) (parts : List (List Char)) :
    List Char :=
  opening :: ([','].intercalate (parts.map (before ++ ·)) ++ after ++ [closing])

/-- The members of a task with their written values. -/
def members (t : Task) : List (String × List Char) :=
  [("id", Json.quote t.id), ("title", Json.quote t.title), ("category", Json.quote t.category),
    ("due", Json.quote t.due), ("createdAt", Json.quote t.createdAt),
    ("completed", if t.completed then "true".toList else "false".toList),
    ("completedAt", t.completedAt.elim "null".toList Json.quote)]

/-- The task as an object. -/
def write (layout : Layout) (t : Task) : List Char :=
  enclose '\x7b' '\x7d' layout.member layout.itemEnd
    (t.members.map fun (key, value) => Json.quote key ++ ':' :: (layout.value ++ value))

/-- The tasks as an array of objects. -/
def writeList (layout : Layout) (tasks : List Task) : String :=
  String.ofList <|
    if tasks.isEmpty then ['[', ']']
    else enclose '[' ']' layout.item layout.listEnd (tasks.map (write layout))

/-- The bytes in which tasks are stored. -/
def encode (tasks : List Task) : ByteArray :=
  (writeList .compact tasks).toUTF8

/-! ### Reading -/

/-- The text that a value is. -/
def text? : Document → Option String
  | .string content => (Json.decode? content).map String.ofList
  | _ => none

/-- The truth value that a value is. -/
def flag? : Document → Option Bool
  | .bool value => some value
  | _ => none

/-- The text or the absence of one that a value is. -/
def optionalText? : Document → Option (Option String)
  | .null => some none
  | value => (text? value).map some

/-- The value of the member with the given key, read as told.  Without such a member it is
the default, if there is one. -/
def member? {α : Type} (read? : Document → Option α) (default : Option α)
    (members : List (String × Document)) (key : String) : Option α :=
  match members.filter (·.1 == key) with
  | [] => default
  | [(_, value)] => read? value
  | _ => none

/-- The task with the given members. -/
def ofMembers? (members : List (String × Document)) : Option Task := do
  let id ← member? text? none members "id"
  let title ← member? text? none members "title"
  let category ← member? text? (some "") members "category"
  let due ← member? text? (some "") members "due"
  let createdAt ← member? text? none members "createdAt"
  let completed ← member? flag? (some false) members "completed"
  let completedAt ← member? optionalText? (some none) members "completedAt"
  return { id, title, category, due, createdAt, completed, completedAt }

/-- The members of an object with their keys as texts. -/
def textKeys? (members : List (List Text.Symbol × Document)) : Option (List (String × Document)) :=
  members.mapM fun (key, value) => (Json.decode? key).map fun key => (String.ofList key, value)

/-- The task that a value describes. -/
def ofDocument? : Document → Option Task
  | .object members => (textKeys? members).bind ofMembers?
  | .array items => if items.length ≤ keys.length then ofMembers? (keys.zip items) else none
  | _ => none

/-- The tasks that a value describes. -/
def listOfDocument? : Document → Option (List Task)
  | .array items => items.mapM ofDocument?
  | _ => none

/-- The tasks that are stored in the given bytes. -/
def decode? (bytes : ByteArray) : Option (List Task) :=
  (Document.ofSymbols? (Text.symbols bytes)).bind listOfDocument?

end Task

end Agenda
