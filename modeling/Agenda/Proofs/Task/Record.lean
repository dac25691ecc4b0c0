import Agenda.Proofs.Json.Document
import Agenda.Proofs.Json.Token
import Agenda.Proofs.Text.Symbols
import Agenda.Task.Record

/-!
# Written tasks

A list of tasks that is written in a layout of blanks is read back as it is, whatever texts
its tasks have.  `decode?_encode` is the case of the stored bytes.
-/

namespace Agenda.Task

open Json (AreGaps Document Spells Token)

/-- The layout puts only blanks between tokens. -/
structure Layout.IsBlank (layout : Layout) : Prop where
  item : AreGaps layout.item
  member : AreGaps layout.member
  value : AreGaps layout.value
  itemEnd : AreGaps layout.itemEnd
  listEnd : AreGaps layout.listEnd

theorem Layout.isBlank_compact : Layout.compact.IsBlank
  := by
  constructor <;> exact fun _ h => absurd h List.not_mem_nil

/-- The tokens of parts with commas between them, enclosed in brackets. -/
theorem spells_enclose {α : Type} {text : α → List Char} {tokens : α → List Token}
    {opening closing : Char} {k l : Token} {before after : List Char} (parts : List α)
    (hopening : Spells [opening] [k]) (hclosing : Spells [closing] [l])
    (hbefore : AreGaps before) (hafter : AreGaps after)
    (h : ∀ part ∈ parts, Spells (text part) (tokens part)) :
  Spells (enclose opening closing before after (parts.map text))
    (k :: ([Token.comma].intercalate (parts.map tokens) ++ [l]))
  := by
  have hparts : Spells ([','].intercalate (parts.map (before ++ text ·)))
      ([Token.comma].intercalate (parts.map tokens)) := by
    apply Spells.intercalate
    intro part hpart
    apply Spells.after_gap hbefore (h part hpart)
  have hend : Spells (after ++ [closing]) [l] := Spells.after_gap hafter hclosing
  rw [enclose, List.map_map, List.append_assoc]
  apply Spells.append hopening (Spells.append hparts hend)

/-! ### Members -/

/-- A text as it is written in a literal. -/
def content (s : String) : List Text.Symbol :=
  (Json.escape s.toList).map .char

/-- A member of a written task: its key, its written value and what that is read as. -/
structure Member where
  key : String
  written : List Char
  token : Token
  value : Document
  spells : Spells written [token]
  ofToken? : Document.ofToken? token = some value

namespace Member

/-- A member whose value is a text. -/
def ofText (key s : String) : Member where
  key := key
  written := Json.quote s
  token := .literal (content s)
  value := .string (content s)
  spells := Spells.quote s
  ofToken? := rfl

/-- A member whose value is a truth value. -/
def ofFlag (key : String) (flag : Bool) : Member where
  key := key
  written := if flag then "true".toList else "false".toList
  token := if flag then .true else .false
  value := .bool flag
  spells := by
    cases flag <;> exact Spells.token rfl (fun _ => rfl)
  ofToken? := by
    cases flag <;> rfl

/-- A member whose value is a text or null. -/
def ofOptionalText (key : String) (s : Option String) : Member where
  key := key
  written := s.elim "null".toList Json.quote
  token := s.elim .null fun s => .literal (content s)
  value := s.elim .null fun s => .string (content s)
  spells := by
    cases s with
    | none => exact Spells.token rfl (fun _ => rfl)
    | some s => exact Spells.quote s
  ofToken? := by
    cases s <;> rfl

/-- The tokens of the member. -/
def tokens (m : Member) : List Token :=
  .literal (content m.key) :: .colon :: [m.token]

end Member

/-- The members of the task with what they are read as. -/
def readMembers (t : Task) : List Member :=
  [.ofText "id" t.id, .ofText "title" t.title, .ofText "category" t.category,
    .ofText "due" t.due, .ofText "createdAt" t.createdAt, .ofFlag "completed" t.completed,
    .ofOptionalText "completedAt" t.completedAt]

theorem members_eq (t : Task) :
  t.members = t.readMembers.map fun m => (m.key, m.written)
  := rfl

/-- The tokens of the task. -/
def tokens (t : Task) : List Token :=
  .objectOpen :: ([Token.comma].intercalate (t.readMembers.map Member.tokens) ++ [.objectClose])

/-- The value that the task is read as. -/
def document (t : Task) : Document :=
  .object (t.readMembers.map fun m => (content m.key, m.value))

theorem spells_write {layout : Layout} (h : layout.IsBlank) (t : Task) :
  Spells (t.write layout) t.tokens
  := by
  rw [write, members_eq, List.map_map]
  apply spells_enclose
  · apply Spells.token rfl (fun _ => rfl)
  · apply Spells.token rfl (fun _ => rfl)
  · apply h.member
  · apply h.itemEnd
  · intro m _
    have hcolon : Spells [':'] [.colon] := Spells.token rfl (fun _ => rfl)
    apply Spells.append (Spells.quote m.key)
    apply Spells.append hcolon
    apply Spells.after_gap h.value m.spells

theorem completes_tokens (t : Task) :
  Document.Completes t.tokens t.document
  := by
  apply Document.completes_object
  intro m _
  apply Document.completes_token m.ofToken?

theorem text?_content (s : String) :
  text? (.string (content s)) = some s
  := by
  simp [text?, content, Json.decode?_escape]

theorem textKeys?_map (members : List Member) :
  textKeys? (members.map fun m => (content m.key, m.value))
    = some (members.map fun m => (m.key, m.value))
  := by
  have hkey : ∀ m : Member, Json.decode? (content m.key) = some m.key.toList := fun m =>
    Json.decode?_escape m.key.toList
  rw [textKeys?, List.mapM_map]
  simp only [Function.comp_def, hkey, Option.map_some, String.ofList_toList]
  apply List.mapM_pure

/-- The members of a task describe it. -/
theorem ofMembers?_readMembers (t : Task) :
  ofMembers? (t.readMembers.map fun m => (m.key, m.value)) = some t
  := by
  have hcompletedAt : optionalText? (t.completedAt.elim .null fun s => .string (content s))
      = some t.completedAt := by
    cases t.completedAt with
    | none => rfl
    | some time => simp [optionalText?, text?_content]
  have hread : ofMembers? (t.readMembers.map fun m => (m.key, m.value)) = do
      let id ← text? (.string (content t.id))
      let title ← text? (.string (content t.title))
      let category ← text? (.string (content t.category))
      let due ← text? (.string (content t.due))
      let createdAt ← text? (.string (content t.createdAt))
      let completed ← flag? (.bool t.completed)
      let completedAt ← optionalText? (t.completedAt.elim .null fun s => .string (content s))
      return { id, title, category, due, createdAt, completed, completedAt } := rfl
  rw [hread, hcompletedAt]
  simp only [text?_content]
  rfl

theorem ofDocument?_document (t : Task) :
  ofDocument? t.document = some t
  := by
  rw [document, ofDocument?, textKeys?_map, Option.bind_some, ofMembers?_readMembers]

/-! ### Lists -/

/-- A written list of tasks is read as its tasks. -/
theorem decode?_writeList {layout : Layout} (h : layout.IsBlank) (tasks : List Task) :
  decode? (writeList layout tasks).toUTF8 = some tasks
  := by
  have hspells : Spells (writeList layout tasks).toList
      (.arrayOpen :: ([Token.comma].intercalate (tasks.map tokens) ++ [.arrayClose])) := by
    rw [writeList, String.toList_ofList]
    split
    · next hempty =>
      obtain rfl := List.isEmpty_iff.mp hempty
      have hopen : Spells ['['] [.arrayOpen] := Spells.token rfl (fun _ => rfl)
      apply Spells.append hopen
      apply Spells.token rfl (fun _ => rfl)
    · apply spells_enclose
      · apply Spells.token rfl (fun _ => rfl)
      · apply Spells.token rfl (fun _ => rfl)
      · apply h.item
      · apply h.listEnd
      · intro t _
        apply spells_write h
  have hread : Document.ofTokens? (.arrayOpen ::
      ([Token.comma].intercalate (tasks.map tokens) ++ [.arrayClose]))
      = some (.array (tasks.map document)) := by
    apply Document.ofTokens?_of_completes
    apply Document.completes_array
    intro t _
    apply completes_tokens
  have hlist : listOfDocument? (.array (tasks.map document)) = some tasks := by
    rw [listOfDocument?, List.mapM_map]
    have hdocument : ofDocument? ∘ document = fun t => some t := funext ofDocument?_document
    rw [hdocument]
    apply Eq.trans List.mapM_pure
    simp
  rw [decode?, Text.symbols_toUTF8, Document.ofSymbols?, Json.tokens?_of_spells hspells,
    Option.bind_some, hread, Option.bind_some, hlist]

/-- Stored bytes are read as the tasks that they store. -/
theorem decode?_encode (tasks : List Task) :
  decode? (encode tasks) = some tasks
  := decode?_writeList Layout.isBlank_compact tasks

end Agenda.Task
