import Mathlib.Tactic.Use
import Agenda.Proofs.Store.Call
import Agenda.Proofs.Task.Record

/-!
# Reloading

A store in memory always agrees with what its storage keeps: the bytes under its key are
read as its list of tasks.  Every call preserves this, whether it succeeds or fails, and so
a store that is loaded anew is the store that there was.
-/

namespace Agenda.Store

open Storage (Memory)

/-- Programs that use a storage in memory and a modelled outside. -/
abbrev InMemory := StateT Memory (StateM World)

/-- The storage in memory, next to a modelled outside. -/
def memoryStorage : Storage InMemory := Storage.inMemory

/-- The identifiers and the clock of the modelled outside. -/
def memorySupply : Supply InMemory where
  fresh := StateT.lift World.fresh
  now := StateT.lift World.now

/-- The list of tasks that the memory keeps.  It is empty when nothing is kept. -/
def keptList (options : Options) (memory : Memory) : Option (List Task) :=
  match memory.get? options.listKey with
  | none => some []
  | some data => Task.decode? data

/-- The memory keeps the list of the store. -/
def IsKept (s : Store) (memory : Memory) : Prop :=
  keptList s.options memory = some s.tasks

/-- A program ends with a store whose list the memory keeps, under the given options. -/
def EndsKept {α : Type} (options : Options) (r : ((α × Store) × Memory) × World) : Prop :=
  IsKept r.1.1.2 r.1.2 ∧ r.1.1.2.options = options

variable {s : Store} {memory : Memory}

/-! ### Loading and saving -/

/-- Loading reads the list that is kept and changes nothing. -/
theorem load_eq (options : Options) (memory : Memory) (w : World) :
  load memoryStorage options memory w
    = (((keptList options memory).elim (.error .malformed) fun tasks => .ok ⟨tasks, options⟩,
        memory), w)
  := by
  cases hdata : memory.get? options.listKey with
  | none =>
    have hread : memoryStorage.read options.listKey memory w
        = ((.error (.noValue options.listKey), memory), w) := by
      simp only [memoryStorage, Storage.inMemory, hdata]
      rfl
    simp only [load, keptList, bind, StateT.bind, hread, hdata]
    rfl
  | some data =>
    have hread : memoryStorage.read options.listKey memory w = ((.ok data, memory), w) := by
      simp only [memoryStorage, Storage.inMemory, hdata]
      rfl
    simp only [load, keptList, bind, StateT.bind, hread, hdata]
    cases Task.decode? data <;> rfl

theorem load_of_isKept (h : IsKept s memory) (w : World) :
  load memoryStorage s.options memory w = ((.ok s, memory), w)
  := by
  rw [load_eq, h]
  rfl

theorem isKept_of_load {options : Options} {w : World}
  (h : (load memoryStorage options memory w).1.1 = .ok s) :
  IsKept s memory ∧ s.options = options
  := by
  rw [load_eq] at h
  cases hkept : keptList options memory with
  | none =>
    rw [hkept] at h
    contradiction
  | some tasks =>
    rw [hkept] at h
    obtain rfl := Except.ok.inj h
    exact ⟨hkept, rfl⟩

/-- The memory keeps a list after it is written. -/
theorem isKept_put (s : Store) (memory : Memory) :
  IsKept s (memory.put s.options.listKey (Task.encode s.tasks))
  := by
  rw [IsKept, keptList, Bindings.get?_put, if_pos rfl]
  apply Task.decode?_encode

/-! ### Calls -/

/-- A change either fails and leaves everything as it was, or its list is written. -/
theorem apply_cases {α : Type} (s : Store) (change : Change α) (memory : Memory) (w : World) :
  (∃ e, s.apply memoryStorage change memory w = (((.error e, s), memory), w)) ∨
  ∃ answer tasks, change s.tasks = .ok (answer, tasks) ∧
    s.apply memoryStorage change memory w
      = (((.ok answer, { s with tasks }),
          memory.put s.options.listKey (Task.encode tasks)), w)
  := by
  unfold apply
  cases change s.tasks with
  | error e =>
    left
    exact ⟨e, rfl⟩
  | ok result =>
    right
    exact ⟨result.1, result.2, rfl, rfl⟩

theorem apply_endsKept {α : Type} (change : Change α) (h : IsKept s memory) (w : World) :
  EndsKept s.options (s.apply memoryStorage change memory w)
  := by
  obtain ⟨e, heq⟩ | ⟨answer, tasks, -, heq⟩ := s.apply_cases change memory w
  · rw [heq]
    exact ⟨h, rfl⟩
  · rw [heq]
    exact ⟨isKept_put { s with tasks } memory, rfl⟩

/-- The same for an action that applies a change, with its answer put in another form. -/
theorem endsKept_of_eq_apply {α : Type} {act : InMemory (Except Error α × Store)}
  {wrap : Except Error α → Answer} {change : Change α} {w w' : World}
  (heq : act memory w = s.apply memoryStorage change memory w') (h : IsKept s memory) :
  EndsKept s.options ((do let (answer, s) ← act; return (wrap answer, s) : InMemory _) memory w)
  := by
  have hafter := apply_endsKept change h w'
  rw [← heq] at hafter
  exact hafter

/-- To serve a request is to apply the change that it is with what can be taken, also when it is
refused and nothing is taken. -/
theorem serve_eq {α β : Type} {take : InMemory β} {taken : β} {w w' : World}
    (htake : take memory w = ((taken, memory), w')) (s : Store) (request : Request β α) :
  ∃ w'', s.serve memoryStorage take request memory w
    = s.apply memoryStorage (request.taking taken) memory w''
  := by
  cases hrequest : request s.tasks with
  | error e =>
    use w
    simp only [serve, apply, Request.taking, hrequest, Except.map]
  | ok make =>
    use w'
    simp only [serve, apply, Request.taking, hrequest, Except.map, bind, StateT.bind, htake]

/-- The outside tells a birth, and the memory stays as it was. -/
theorem birth_eq (memory : Memory) (w : World) :
  ∃ b w', birth memorySupply memory w = ((b, memory), w')
  := ⟨_, _, rfl⟩

/-- The outside tells when a task is completed, and the memory stays as it was. -/
theorem completion_eq (completed : Bool) (memory : Memory) (w : World) :
  ∃ time w', completion memorySupply completed memory w = ((time, memory), w')
  := by
  cases completed <;> exact ⟨_, _, rfl⟩

theorem add_eq (s : Store) (draft : Draft) (memory : Memory) (w : World) :
  ∃ b w', s.add memorySupply memoryStorage draft memory w
    = s.apply memoryStorage (create s.options.defaultCategory draft b) memory w'
  := by
  obtain ⟨b, w', hbirth⟩ := birth_eq memory w
  use b
  apply serve_eq hbirth

theorem setCompleted_eq (s : Store) (id : String) (completed : Bool) (memory : Memory)
  (w : World) :
  ∃ time w', s.setCompleted memorySupply memoryStorage id completed memory w
    = s.apply memoryStorage (mark id time) memory w'
  := by
  obtain ⟨time, w', htime⟩ := completion_eq completed memory w
  use time
  apply serve_eq htime

theorem addSamples_eq (s : Store) (memory : Memory) (w : World) :
  ∃ added w', s.addSamples memorySupply memoryStorage memory w
    = s.apply memoryStorage (prepend added) memory w'
  := by
  obtain ⟨first, w₁, h₁⟩ := birth_eq memory w
  obtain ⟨second, w₂, h₂⟩ := birth_eq memory w₁
  obtain ⟨third, w₃, h₃⟩ := birth_eq memory w₂
  obtain ⟨fourth, w₄, h₄⟩ := birth_eq memory w₃
  have hnow : memorySupply.now memory w₄ = ((w₄.now.1, memory), w₄.now.2) := rfl
  use samples first second third fourth w₄.now.1.stamp, w₄.now.2
  simp only [addSamples, bind, StateT.bind, h₁, h₂, h₃, h₄, hnow]

/-- The memory keeps the list after every call, also after one that fails. -/
theorem perform_endsKept (call : Call) (h : IsKept s memory) (w : World) :
  EndsKept s.options (call.perform memorySupply memoryStorage s memory w)
  := by
  cases call with
  | add draft =>
    obtain ⟨b, w', heq⟩ := s.add_eq draft memory w
    apply endsKept_of_eq_apply heq h
  | setCompleted id completed =>
    obtain ⟨time, w', heq⟩ := s.setCompleted_eq id completed memory w
    apply endsKept_of_eq_apply heq h
  | remove id => apply endsKept_of_eq_apply rfl h
  | removeAll => apply endsKept_of_eq_apply rfl h
  | addSamples =>
    obtain ⟨added, w', heq⟩ := s.addSamples_eq memory w
    apply endsKept_of_eq_apply heq h
  | tidy => apply endsKept_of_eq_apply rfl h

/-! ### Sequences of calls -/

theorem performAll_endsKept (calls : List Call) (h : IsKept s memory) (w : World) :
  EndsKept s.options (performAll memorySupply memoryStorage calls s memory w)
  := by
  induction calls generalizing s memory w with
  | nil => exact ⟨h, rfl⟩
  | cons call calls ih =>
    obtain ⟨hkept, hoptions⟩ := perform_endsKept call h w
    obtain ⟨hkept', hoptions'⟩ := ih hkept (call.perform memorySupply memoryStorage s memory w).2
    exact ⟨hkept', hoptions'.trans hoptions⟩

/-- Steps give what their calls give: to load the store anew makes no difference. -/
theorem performSteps_eq (steps : List Step) (h : IsKept s memory) (w : World) :
  performSteps memorySupply memoryStorage steps s memory w
    = (Except.ok <$> performAll memorySupply memoryStorage (steps.filterMap Step.call?) s) memory w
  := by
  induction steps generalizing s memory w with
  | nil => rfl
  | cons step steps ih =>
    cases step with
    | reload =>
      rw [performSteps]
      simp only [bind, StateT.bind, load_of_isKept h w]
      apply ih h
    | call call =>
      obtain ⟨hkept, -⟩ := perform_endsKept call h w
      simp only [performSteps, performAll, List.filterMap_cons, Step.call?, bind, StateT.bind,
        Functor.map, StateT.map]
      rcases hresult : call.perform memorySupply memoryStorage s memory w
        with ⟨⟨⟨answer, changed⟩, kept⟩, w'⟩
      rw [hresult] at hkept
      simp only [ih hkept]
      rfl

/-- When a store is loaded from memory, it may be loaded anew at any time: neither an answer
nor the store nor the memory at the end depends on it.  After all calls the memory keeps the
list of the store. -/
theorem reload_transparent {options : Options} {w : World}
  (h : (load memoryStorage options memory w).1.1 = .ok s) :
  (∀ steps : List Step,
    performSteps memorySupply memoryStorage steps s memory w
      = (Except.ok <$> performAll memorySupply memoryStorage (steps.filterMap Step.call?) s)
          memory w) ∧
  ∀ calls : List Call,
    let ((_, changed), kept) := (performAll memorySupply memoryStorage calls s memory w).1
    changed.options = options ∧ keptList options kept = some changed.tasks
  := by
  obtain ⟨hkept, rfl⟩ := isKept_of_load h
  constructor
  · intro steps
    apply performSteps_eq steps hkept
  · intro calls
    obtain ⟨hafter, hoptions⟩ := performAll_endsKept calls hkept w
    use hoptions
    rw [← hoptions]
    apply hafter

/-- A memory with one task, in a form that is read but never written. -/
def noteMemory : Memory :=
  [("notes.json", "[ \x7b\"id\": \"a\", \"createdAt\": \"\", \"title\": \"\\u2021 \\\"b\\\"\"\x7d ]".toUTF8)]

/-- The store with that task. -/
def noteStore : Store where
  tasks := [⟨"a", "‡ \"b\"", "", "", "", false, none⟩]
  options := ⟨"notes", "Inbox"⟩

/-- An outside in which identifiers and times repeat. -/
def stillWorld : World where
  disk := ⟨.folder [], []⟩
  identifiers _ := "\\"
  readings _ := ⟨⟨2024, 2, 29, by decide, by decide, by decide⟩, 12, 0, 0, 0⟩

theorem reload_transparent_noteStore :
  (load memoryStorage noteStore.options noteMemory stillWorld).1.1 = .ok noteStore ∧
  performSteps memorySupply memoryStorage
      [.reload, .call (.add ⟨"\"c\"", none, none⟩), .reload, .call .tidy]
      noteStore noteMemory stillWorld
    = (Except.ok <$> performAll memorySupply memoryStorage
        [.add ⟨"\"c\"", none, none⟩, .tidy] noteStore) noteMemory stillWorld
  := by
  have hkept : keptList noteStore.options noteMemory = some noteStore.tasks := by
    decide +kernel
  have hload : (load memoryStorage noteStore.options noteMemory stillWorld).1.1
      = .ok noteStore := by
    rw [load_eq, hkept]
    rfl
  use hload
  apply (reload_transparent hload).1

end Agenda.Store
