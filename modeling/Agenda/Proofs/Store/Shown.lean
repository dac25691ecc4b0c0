import Agenda.Proofs.Store.Atomicity
import Agenda.Query.Answer

/-!
# Shown answers

The answer to a query is shown as an array of tasks or as the wording of its error.  An array is
shown as it is stored except for the blanks between its tokens, so a store that finds it under the
key of its list is loaded with the tasks of the answer.  The wording of an error does not begin like
any value, and so it is refused there.
-/

namespace Agenda

namespace Task

/-! ### Arrays in the indented layout -/

theorem Layout.isBlank_indented : Layout.indented.IsBlank
  := by
  constructor
  all_goals
    apply List.all_eq_true.mp
    rfl

/-- An array begins with its bracket. -/
theorem exists_writeList_eq (layout : Layout) (tasks : List Task) :
  ∃ rest, (writeList layout tasks).toList = '[' :: rest
  := by
  rw [writeList, String.toList_ofList]
  split
  · exact ⟨_, rfl⟩
  · exact ⟨_, rfl⟩

end Task

namespace Query

/-! ### Answers as they are shown -/

theorem toList_render_error (e : Error) :
  (render (.error e)).toList = "ERROR: ".toList ++ e.message.toList
  := String.toList_append

/-- No token begins like the wording of an error. -/
theorem tokens?_render_error (e : Error) :
  Json.tokens? ((render (.error e)).toList.map .char) = none
  := by
  have htoken : ∀ rest, Json.token? (.char 'E' :: rest) = none := by
    simp [Json.token?, Json.unsigned?, Json.whole?, Json.someDigits?, Json.digits]
  have hbegin : (render (.error e)).toList = 'E' :: ("RROR: ".toList ++ e.message.toList) :=
    toList_render_error e
  rw [hbegin, List.map_cons, Json.tokens?, if_neg (by decide)]
  split
  · rfl
  · next hsome =>
    rw [htoken] at hsome
    contradiction

/-- What is shown is read as the tasks of the answer, or is no list of tasks for an error. -/
theorem decode?_render (result : Except Error (List Task)) :
  Task.decode? (render result).toUTF8 = result.toOption
  := by
  cases result with
  | ok tasks => apply Task.decode?_writeList Task.Layout.isBlank_indented
  | error e =>
    rw [Task.decode?, Text.symbols_toUTF8, Json.Document.ofSymbols?, tokens?_render_error]
    rfl

/-- What is shown begins with a bracket just for the answers that are no errors. -/
theorem bracket_isPrefix_render_iff (result : Except Error (List Task)) :
  ['['] <+: (render result).toList ↔ ∃ rows, result = .ok rows
  := by
  cases result with
  | ok rows =>
    obtain ⟨rest, hrest⟩ := Task.exists_writeList_eq .indented rows
    simp [render, hrest]
  | error e => simp [toList_render_error]

/-- What is shown begins with the word for errors just for errors. -/
theorem error_isPrefix_render_iff (result : Except Error (List Task)) :
  "ERROR: ".toList <+: (render result).toList ↔ ∃ e, result = .error e
  := by
  cases result with
  | ok rows =>
    obtain ⟨rest, hrest⟩ := Task.exists_writeList_eq .indented rows
    simp [render, hrest]
  | error e => simp [toList_render_error]

end Query

namespace Store

open Backend (folderStorage)
open Storage (Disk Memory)

/-! ### Loading what is shown -/

/-- A store that finds the text under the key of its list is loaded with the outcome, from memory
as well as from a folder, and nothing is changed. -/
structure Loads (text : String) (outcome : Options → Except Error Store) : Prop where
  inMemory : ∀ (options : Options) (memory : Memory) (w : World),
    memory.get? options.listKey = some text.toUTF8 →
    load memoryStorage options memory w = ((outcome options, memory), w)
  inFolder : ∀ (folder : String) (options : Options) (w : World),
    w.disk.read (Disk.join folder options.listKey) = .ok text.toUTF8 →
    load (folderStorage folder) options w = (outcome options, w)

/-- A text is loaded as the tasks that its bytes are read as. -/
theorem loads_decode? (text : String) :
  Loads text fun options =>
    (Task.decode? text.toUTF8).elim (.error .malformed) fun tasks => .ok ⟨tasks, options⟩
  where
  inMemory options memory w h := by
    rw [load_eq, keptList, h]
  inFolder folder options w h := by
    rw [load_folder_eq, h]

/-- The shown answer to a query is loaded as its tasks, in their order and with all their fields,
and is refused if the query has an error.  Its beginning tells which of the two it is. -/
theorem shown_answer_loads (query : String) (tasks : List Task) :
  (∀ rows, Query.answer query tasks = .ok rows →
    Loads (Query.render (Query.answer query tasks)) fun options => .ok ⟨rows, options⟩)
  ∧ (∀ e, Query.answer query tasks = .error e →
    Loads (Query.render (Query.answer query tasks)) fun _ => .error .malformed)
  ∧ (['['] <+: (Query.render (Query.answer query tasks)).toList ↔
    ∃ rows, Query.answer query tasks = .ok rows)
  ∧ ("ERROR: ".toList <+: (Query.render (Query.answer query tasks)).toList ↔
    ∃ e, Query.answer query tasks = .error e)
  := by
  have hloads := loads_decode? (Query.render (Query.answer query tasks))
  rw [Query.decode?_render] at hloads
  refine ⟨?_, ?_, Query.bracket_isPrefix_render_iff _, Query.error_isPrefix_render_iff _⟩
  · intro rows h
    rw [h] at hloads ⊢
    exact hloads
  · intro e h
    rw [h] at hloads ⊢
    exact hloads

/-- Two tasks whose texts need escapes, with one between them that does not. -/
def escapedTasks : List Task :=
  [⟨"a", "\"quoted\" \\ \n[\u2028", "\x1f", "", "", true, some ""⟩,
    ⟨"b", "plain", "Work", "", "", false, none⟩,
    ⟨"c", "\x7b\"\x7d, 😀", "", "\t", "", false, some "\""⟩]

/-- A query that selects the last and then the first of them. -/
def escapedQuery : String :=
  "select * from tasks where title like '\x7b' or completed = true"

theorem shown_answer_loads_escapedTasks :
  let rows := escapedTasks.reverse.eraseIdx 1
  let memory : Memory :=
    [("notes.json", (Query.render (Query.answer escapedQuery escapedTasks)).toUTF8)]
  Query.answer escapedQuery escapedTasks = .ok rows
  ∧ memory.get? noteStore.options.listKey
    = some (Query.render (Query.answer escapedQuery escapedTasks)).toUTF8
  ∧ load memoryStorage noteStore.options memory stillWorld
    = ((.ok ⟨rows, noteStore.options⟩, memory), stillWorld)
  ∧ ['['] <+: (Query.render (Query.answer escapedQuery escapedTasks)).toList
  := by
  intro rows memory
  have hrows : Query.answer escapedQuery escapedTasks = .ok rows := by
    decide +kernel
  have hfound : memory.get? noteStore.options.listKey
      = some (Query.render (Query.answer escapedQuery escapedTasks)).toUTF8 := rfl
  obtain ⟨hloads, -, hbracket, -⟩ := shown_answer_loads escapedQuery escapedTasks
  refine ⟨hrows, hfound, ?_, hbracket.mpr ⟨rows, hrows⟩⟩
  apply (hloads rows hrows).inMemory _ _ _ hfound

end Store

end Agenda
