import Agenda.Config.Basic
import Agenda.Proofs.Store.WellFormed

/-!
# Soundness of the store

However a store is used, its tasks are well-formed and their identifiers are pairwise distinct.
A use of the store is a sequence of calls, which may fail, and of attempts to load the store
anew.  The invariant that every step preserves is `Backend.IsSound`: the tasks of the store are
sound, and so is whatever list can be read from the storage, which after a failed writing need
not be that of the store.  What a call does is told by `Backend.Applies`: it is refused before it
takes anything from outside, or it applies a change after it has taken what that needs.
-/

namespace Agenda.Store

open World (Accounts)

/-! ### Steps -/

section

variable {m : Type → Type} [Monad m] (supply : Supply m) (storage : Storage m)

/-- The store after a step.  A store that cannot be loaded anew stays as it is. -/
def Step.follow (s : Store) : Step → m Store
  | .call c => do
    let (_, changed) ← c.perform supply storage s
    return changed
  | .reload => do
    match ← load storage s.options with
    | .ok loaded => return loaded
    | .error _ => return s

/-- The store after the steps. -/
def followAll (steps : List Step) (s : Store) : m Store :=
  steps.foldlM (Step.follow supply storage) s

end

/-! ### The invariant -/

namespace Backend

variable {m : Type → Type} [Monad m] {σ : Type} {B : Backend m σ}

/-- The tasks of the store and all lists that can be read under its key are sound, in a world
that is regular. -/
structure IsSound (B : Backend m σ) (state : σ) (s : Store) : Prop where
  isRegular : (B.world state).IsRegular
  isCategory : IsCategory s.options.defaultCategory
  accounts : (B.world state).Accounts s.tasks
  stored : ∀ data tasks, B.Holds state s.options.listKey data → Task.decode? data = some tasks →
    (B.world state).Accounts tasks

/-- A program that ends with a store ends soundly. -/
def EndsSound (B : Backend m σ) {α : Type} (x : m (α × Store)) (state : σ) : Prop :=
  B.IsSound (B.run x state).2 (B.run x state).1.2

variable {state state' : σ} {s : Store}

/-- A sound store remains so when the world goes on and nothing else can be read. -/
theorem IsSound.of_continues (h : B.IsSound state s)
    (hworld : (B.world state).Continues (B.world state'))
    (hholds : ∀ key data, B.Holds state' key data → B.Holds state key data) :
  B.IsSound state' s
  where
  isRegular := h.isRegular.of_continues hworld
  isCategory := h.isCategory
  accounts := h.accounts.of_continues hworld
  stored data tasks hdata hdecode :=
    (h.stored data tasks (hholds _ data hdata) hdecode).of_continues hworld

/-! ### Actions -/

/-- An action applies a change.  It is refused when there is no change, and nothing has happened
then; otherwise the change is applied after what it needs has been taken. -/
def Applies {α : Type} (B : Backend m σ) (s : Store) (act : m (Except Error α × Store))
    (change : Change α) (state spent : σ) : Prop :=
  B.run act state = match change s.tasks with
    | .error e => ((.error e, s), state)
    | .ok _ => B.run (s.apply B.storage change) spent

theorem applies_apply {α : Type} (B : Backend m σ) (s : Store) (change : Change α) (state : σ) :
  B.Applies s (s.apply B.storage change) change state state
  := by
  cases hchange : change s.tasks with
  | error e => simp only [Applies, apply, hchange, B.run_pure]
  | ok result => simp only [Applies, hchange]

/-- To serve a request applies the change that it is with what is taken. -/
theorem applies_serve {α β : Type} {take : m β} {taken : β} {spent : σ}
    (htake : B.run take state = (taken, spent)) (s : Store) (request : Request β α) :
  B.Applies s (s.serve B.storage take request) (request.taking taken) state spent
  := by
  cases hrequest : request s.tasks with
  | error e => simp only [Applies, serve, Request.taking, hrequest, Except.map, B.run_pure]
  | ok make =>
    simp only [Applies, serve, apply, Request.taking, hrequest, Except.map, B.run_bind, htake]

/-- A change that can be made is applied. -/
theorem Applies.run_eq {α : Type} {act : m (Except Error α × Store)} {change : Change α}
    {spent : σ} {result : α × List Task} (h : B.Applies s act change state spent)
    (hchange : change s.tasks = .ok result) :
  B.run act state = B.run (s.apply B.storage change) spent
  := by
  rw [Applies, hchange] at h
  exact h

theorem run_birth (B : Backend m σ) (state : σ) :
  ∃ state', B.run (birth B.supply) state = ((B.world state).birth, state')
    ∧ B.world state' = (B.world state).afterBirth
    ∧ ∀ key data, B.Holds state' key data → B.Holds state key data
  := by
  obtain ⟨state₁, hfresh, hworld₁, hholds₁⟩ := B.run_fresh state
  obtain ⟨state₂, hnow, hworld₂, hholds₂⟩ := B.run_now state₁
  refine ⟨state₂, ?_, ?_, ?_⟩
  · simp only [birth, B.run_bind, B.run_pure, hfresh, hnow, hworld₁]
    rfl
  · rw [hworld₂, hworld₁]
    rfl
  · intro key data hdata
    apply hholds₁ key data (hholds₂ key data hdata)

/-- The clock is read for a task that is completed only. -/
theorem run_completion (B : Backend m σ) (completed : Bool) (state : σ) :
  ∃ state', B.run (completion B.supply completed) state
      = (if completed then some ((B.world state).readings (B.world state).read).stamp else none,
        state')
    ∧ B.world state' = (if completed then (B.world state).afterNow else B.world state)
    ∧ ∀ key data, B.Holds state' key data → B.Holds state key data
  := by
  cases completed with
  | true =>
    obtain ⟨state', hnow, hworld, hholds⟩ := B.run_now state
    refine ⟨state', ?_, hworld, hholds⟩
    simp only [completion, if_true, B.run_bind, B.run_pure, hnow]
  | false => exact ⟨state, B.run_pure _ _, rfl, fun _ _ hdata => hdata⟩

theorem applies_add (B : Backend m σ) (s : Store) (draft : Draft) (state : σ) :
  ∃ spent, B.Applies s (s.add B.supply B.storage draft)
      (create s.options.defaultCategory draft (B.world state).birth) state spent
    ∧ B.world spent = (B.world state).afterBirth
    ∧ ∀ key data, B.Holds spent key data → B.Holds state key data
  := by
  obtain ⟨spent, hbirth, htaken⟩ := B.run_birth state
  exact ⟨spent, applies_serve hbirth s _, htaken⟩

theorem applies_setCompleted (B : Backend m σ) (s : Store) (id : String) (completed : Bool)
    (state : σ) :
  ∃ spent, B.Applies s (s.setCompleted B.supply B.storage id completed)
      (mark id
        (if completed then some ((B.world state).readings (B.world state).read).stamp else none))
      state spent
    ∧ B.world spent = (if completed then (B.world state).afterNow else B.world state)
    ∧ ∀ key data, B.Holds spent key data → B.Holds state key data
  := by
  obtain ⟨spent, htime, htaken⟩ := B.run_completion completed state
  exact ⟨spent, applies_serve htime s _, htaken⟩

theorem applies_addSamples (B : Backend m σ) (s : Store) (state : σ) :
  ∃ spent, B.Applies s (s.addSamples B.supply B.storage) (prepend (B.world state).samples)
      state spent
    ∧ B.world spent = (B.world state).afterSamples
    ∧ ∀ key data, B.Holds spent key data → B.Holds state key data
  := by
  obtain ⟨state₁, hbirth₁, hworld₁, hholds₁⟩ := B.run_birth state
  obtain ⟨state₂, hbirth₂, hworld₂, hholds₂⟩ := B.run_birth state₁
  obtain ⟨state₃, hbirth₃, hworld₃, hholds₃⟩ := B.run_birth state₂
  obtain ⟨state₄, hbirth₄, hworld₄, hholds₄⟩ := B.run_birth state₃
  obtain ⟨spent, hnow, hworld, hholds⟩ := B.run_now state₄
  rw [hworld₁] at hbirth₂ hworld₂
  rw [hworld₂] at hbirth₃ hworld₃
  rw [hworld₃] at hbirth₄ hworld₄
  rw [hworld₄] at hnow hworld
  refine ⟨spent, ?_, hworld, ?_⟩
  · simp only [Applies, addSamples, B.run_bind, hbirth₁, hbirth₂, hbirth₃, hbirth₄, hnow]
    rfl
  · intro key data hdata
    apply hholds₁ key data (hholds₂ key data (hholds₃ key data (hholds₄ key data _)))
    apply hholds key data hdata

/-- A change is applied soundly when it gives a sound list. -/
theorem endsSound_apply {α : Type} (h : B.IsSound state s) (change : Change α)
    (hchange : ∀ answer left, change s.tasks = .ok (answer, left) →
      (B.world state).Accounts left) :
  B.EndsSound (s.apply B.storage change) state
  := by
  rw [EndsSound, apply]
  cases hresult : change s.tasks with
  | error e =>
    rw [B.run_pure]
    exact h
  | ok result =>
    obtain ⟨answer, left⟩ := result
    have hleft := hchange answer left hresult
    obtain ⟨written, state', hwrite, hworld, hholds⟩ :=
      B.run_write state s.options.listKey (Task.encode left)
    have hsound : B.IsSound state' { s with tasks := left } := by
      refine ⟨h.isRegular.of_continues hworld, h.isCategory, hleft.of_continues hworld, ?_⟩
      intro data tasks hdata hdecode
      obtain rfl | hold := hholds data hdata
      · rw [Task.decode?_encode] at hdecode
        obtain rfl := Option.some.inj hdecode
        apply hleft.of_continues hworld
      · apply (h.stored data tasks hold hdecode).of_continues hworld
    simp only [save, B.run_bind, hwrite]
    cases written with
    | ok _ =>
      rw [B.run_pure]
      exact hsound
    | error fault =>
      rw [B.run_pure]
      exact hsound

/-- The same for an action that applies a change. -/
theorem Applies.endsSound {α : Type} {act : m (Except Error α × Store)} {change : Change α}
    {spent : σ} (happlies : B.Applies s act change state spent) (h : B.IsSound state s)
    (hspent : B.IsSound spent s)
    (hchange : ∀ answer left, change s.tasks = .ok (answer, left) →
      (B.world spent).Accounts left) :
  B.EndsSound act state
  := by
  cases hresult : change s.tasks with
  | error e =>
    rw [Applies, hresult] at happlies
    rw [EndsSound, happlies]
    exact h
  | ok result =>
    rw [EndsSound, happlies.run_eq hresult]
    apply endsSound_apply hspent change hchange

theorem endsSound_add (h : B.IsSound state s) (draft : Draft) :
  B.EndsSound (s.add B.supply B.storage draft) state
  := by
  obtain ⟨spent, happlies, hworld, hholds⟩ := B.applies_add s draft state
  have hcontinues := hworld ▸ (B.world state).continues_afterBirth
  apply happlies.endsSound h (h.of_continues hcontinues hholds)
  intro answer left hcreate
  rw [hworld]
  apply accounts_create h.isRegular h.accounts h.isCategory hcreate

theorem endsSound_setCompleted (h : B.IsSound state s) (id : String) (completed : Bool) :
  B.EndsSound (s.setCompleted B.supply B.storage id completed) state
  := by
  obtain ⟨spent, happlies, hworld, hholds⟩ := B.applies_setCompleted s id completed state
  have hcontinues : (B.world state).Continues (B.world spent) := by
    rw [hworld]
    cases completed with
    | true => apply World.continues_afterNow
    | false => apply World.Continues.refl
  apply happlies.endsSound h (h.of_continues hcontinues hholds)
  intro answer left hmark
  apply World.Accounts.of_continues _ hcontinues
  apply accounts_mark h.isRegular h.accounts _ hmark
  intro time htime
  cases completed with
  | true => exact (Option.some.inj htime).symm
  | false => contradiction

theorem endsSound_addSamples (h : B.IsSound state s) :
  B.EndsSound (s.addSamples B.supply B.storage) state
  := by
  obtain ⟨spent, happlies, hworld, hholds⟩ := B.applies_addSamples s state
  have hcontinues := hworld ▸ (B.world state).continues_afterSamples
  apply happlies.endsSound h (h.of_continues hcontinues hholds)
  intro answer left hprepend
  obtain ⟨-, rfl⟩ := Prod.mk.inj (Except.ok.inj hprepend)
  rw [hworld]
  apply accounts_samples h.isRegular h.accounts

/-- An action that ends soundly does so when its answer is put in another form. -/
theorem EndsSound.wrap {α : Type} {act : m (Except Error α × Store)}
    (h : B.EndsSound act state) (wrap : Except Error α → Answer) :
  B.EndsSound (do let (answer, s) ← act; return (wrap answer, s)) state
  := by
  simp only [EndsSound, B.run_bind, B.run_pure]
  exact h

/-- Every call ends soundly, also one that fails. -/
theorem endsSound_perform (h : B.IsSound state s) (call : Call) :
  B.EndsSound (call.perform B.supply B.storage s) state
  := by
  cases call with
  | add draft => apply (endsSound_add h draft).wrap
  | setCompleted id completed => apply (endsSound_setCompleted h id completed).wrap
  | remove id =>
    apply (endsSound_apply h (delete id) _).wrap
    intro answer left hdelete
    apply accounts_delete h.accounts hdelete
  | removeAll =>
    apply (endsSound_apply h clear _).wrap
    intro answer left hclear
    obtain ⟨-, rfl⟩ := Prod.mk.inj (Except.ok.inj hclear)
    apply Accounts.nil
  | addSamples => apply (endsSound_addSamples h).wrap
  | tidy =>
    apply (endsSound_apply h (clean s.options.defaultCategory) _).wrap
    intro answer left hclean
    apply accounts_clean h.accounts hclean

/-! ### Runs -/

/-- Loading changes nothing, and a store that is loaded is sound. -/
theorem run_load (h : B.IsSound state s) :
  ∃ answer, B.run (load B.storage s.options) state = (answer, state)
    ∧ ∀ loaded, answer = .ok loaded → B.IsSound state loaded
  := by
  obtain ⟨answer, hread, hdata⟩ := B.run_read state s.options.listKey
  simp only [load, B.run_bind, hread]
  cases answer with
  | error fault =>
    cases hfound : fault.isNotFound with
    | true =>
      simp only [hfound, if_true, B.run_pure]
      refine ⟨_, rfl, ?_⟩
      rintro loaded ⟨⟩
      exact ⟨h.isRegular, h.isCategory, Accounts.nil _, h.stored⟩
    | false =>
      simp only [hfound, Bool.false_eq_true, if_false, B.run_pure]
      refine ⟨_, rfl, ?_⟩
      rintro loaded ⟨⟩
  | ok data =>
    cases hdecode : Task.decode? data with
    | none =>
      simp only [hdecode, B.run_pure]
      refine ⟨_, rfl, ?_⟩
      rintro loaded ⟨⟩
    | some tasks =>
      simp only [hdecode, B.run_pure]
      refine ⟨_, rfl, ?_⟩
      rintro loaded ⟨⟩
      have hstored := h.stored data tasks (hdata data rfl) hdecode
      exact ⟨h.isRegular, h.isCategory, hstored, h.stored⟩

/-- A step leaves the store sound. -/
theorem isSound_follow (h : B.IsSound state s) (step : Step) :
  B.IsSound (B.run (step.follow B.supply B.storage s) state).2
    (B.run (step.follow B.supply B.storage s) state).1
  := by
  cases step with
  | call call =>
    have hcall := endsSound_perform h call
    simp only [Step.follow, B.run_bind, B.run_pure]
    exact hcall
  | reload =>
    obtain ⟨answer, hload, hloaded⟩ := run_load h
    simp only [Step.follow, B.run_bind, hload]
    cases answer with
    | error e =>
      rw [B.run_pure]
      exact h
    | ok loaded =>
      rw [B.run_pure]
      apply hloaded loaded rfl

/-- Steps leave the store sound. -/
theorem isSound_followAll (h : B.IsSound state s) (steps : List Step) :
  B.IsSound (B.run (followAll B.supply B.storage steps s) state).2
    (B.run (followAll B.supply B.storage steps s) state).1
  := by
  induction steps generalizing state s with
  | nil =>
    rw [followAll, List.foldlM_nil, B.run_pure]
    exact h
  | cons step steps ih =>
    rw [followAll, List.foldlM_cons, B.run_bind]
    apply ih (isSound_follow h step)

/-- A store without tasks is sound when nothing can be read under its key. -/
theorem isSound_empty {options : Options} (hw : (B.world state).IsRegular)
    (hcategory : IsCategory options.defaultCategory)
    (hnone : ∀ data, ¬ B.Holds state options.listKey data) :
  B.IsSound state ⟨[], options⟩
  := by
  refine ⟨hw, hcategory, Accounts.nil _, ?_⟩
  intro data _ hdata
  apply absurd hdata (hnone data)

end Backend

/-! ### The tasks of a store -/

/-- The tasks are well-formed and no two of them have the same identifier. -/
structure AreWellFormed (tasks : List Task) : Prop where
  isWellFormed : ∀ t ∈ tasks, t.IsWellFormed
  nodup : (tasks.map (·.id)).Nodup

theorem Backend.IsSound.areWellFormed {m : Type → Type} [Monad m] {σ : Type} {B : Backend m σ}
    {state : σ} {s : Store} (h : B.IsSound state s) :
  AreWellFormed s.tasks
  := ⟨h.accounts.isWellFormed, h.accounts.nodup⟩

/-- The default category of settings without a problem is trimmed and not empty. -/
theorem isCategory_storeOptions {c : Config} (h : c.problem? = none) :
  IsCategory c.storeOptions.defaultCategory
  := by
  constructor
  · intro hempty
    have hproblem : (Text.trim c.defaultCategory).isEmpty = true := by
      simpa [Config.storeOptions] using hempty
    simp only [Config.problem?, hproblem, if_true] at h
    split at h
    · apply Option.some_ne_none _ h
    · split at h
      · apply Option.some_ne_none _ h
      · apply Option.some_ne_none _ h
  · apply Text.trim_trim

/-- When nothing is stored, a store is loaded without tasks, and whatever is then done with it,
its tasks are well-formed and have distinct identifiers: in memory as in a folder.  The default
category may come from any settings that are accepted. -/
theorem areWellFormed_followAll {w : World} (hw : w.IsRegular) {options : Options}
    (hcategory : IsCategory options.defaultCategory) (steps : List Step) :
  (∀ memory : Storage.Memory, memory.get? options.listKey = none →
    load memoryStorage options memory w = ((.ok ⟨[], options⟩, memory), w)
      ∧ AreWellFormed
        (followAll memorySupply memoryStorage steps ⟨[], options⟩ memory w).1.1.tasks)
    ∧ (∀ (folder : String) (fault : Storage.Fault),
      w.disk.read (Storage.Disk.join folder options.listKey) = .error fault →
      fault.isNotFound = true →
      load (Backend.folderStorage folder) options w = (.ok ⟨[], options⟩, w)
        ∧ AreWellFormed (followAll World.system.toSupply (Backend.folderStorage folder) steps
          ⟨[], options⟩ w).1.tasks)
    ∧ ∀ c : Config, c.problem? = none → IsCategory c.storeOptions.defaultCategory
  := by
  refine ⟨?_, ?_, fun c => isCategory_storeOptions⟩
  · intro memory hnone
    constructor
    · rw [load_eq, keptList, hnone]
      rfl
    · have hsound : Backend.inMemory.IsSound (memory, w) ⟨[], options⟩ := by
        apply Backend.isSound_empty hw hcategory
        intro data hdata
        have hkept : memory.get? options.listKey = some data := hdata
        rw [hnone] at hkept
        contradiction
      apply (Backend.isSound_followAll hsound steps).areWellFormed
  · intro folder fault hread hfault
    constructor
    · have hrun : (Backend.folderStorage folder).read options.listKey w = (.error fault, w) := by
        change (w.disk.read (Storage.Disk.join folder options.listKey), w) = _
        rw [hread]
      simp only [load, Backend.bind_apply, hrun, hfault, if_true]
      rfl
    · have hsound : (Backend.inFolder folder).IsSound w ⟨[], options⟩ := by
        apply Backend.isSound_empty hw hcategory
        intro data hdata
        have hkept : w.disk.read (Storage.Disk.join folder options.listKey) = .ok data := hdata
        rw [hread] at hkept
        contradiction
      apply (Backend.isSound_followAll hsound steps).areWellFormed

/-- A world in which identifiers grow and the clock ticks once for every reading, up to the end
of a leap second. -/
def tickingWorld : World where
  disk := ⟨.folder [], []⟩
  identifiers k := String.ofList (List.replicate k 'a')
  readings k :=
    ⟨⟨1999, 11, 30, by decide, by decide, by decide⟩, 23, 59, 60, if k ≤ 999 then k else 999⟩

theorem isRegular_tickingWorld :
  tickingWorld.IsRegular
  := by
  constructor
  · intro i j h
    have hlength := congrArg String.length h
    simpa [tickingWorld] using hlength
  · intro k
    have hmillisecond : (if k ≤ 999 then k else 999) < 1000 := by
      split <;> omega
    exact ⟨(by decide : (0 : Int) ≤ 1999 ∧ (1999 : Int) ≤ 9999), (by decide : 23 < 24),
      (by decide : 59 < 60), (by decide : 60 ≤ 60), hmillisecond⟩
  · intro i j h
    have hle : (if i ≤ 999 then i else 999) ≤ if j ≤ 999 then j else 999 := by
      split <;> split <;> omega
    obtain heq | hlt := hle.eq_or_lt
    · left
      simp only [Calendar.Time.parts, tickingWorld, heq]
    · right
      apply List.Lex.cons (.cons (.cons (.cons (.cons (.cons (.rel hlt))))))

/-- The disk of that world has no list of tasks. -/
theorem read_tickingWorld :
  tickingWorld.disk.read (Storage.Disk.join "" (Options.listKey ⟨"notes", "Inbox"⟩))
    = .error (.os .notFound)
  := by
  have hpath : Storage.Disk.join "" (Options.listKey ⟨"notes", "Inbox"⟩) = "notes.json" := by
    decide
  have hfault : Storage.Disk.pathFault? "notes.json" = none := by
    rw [Storage.Disk.pathFault?, String.contains_char_eq]
    decide
  rw [hpath, Storage.Disk.read, Storage.Disk.target, hfault]
  rfl

theorem areWellFormed_followAll_tickingWorld :
  tickingWorld.IsRegular ∧ IsCategory "Inbox"
    ∧ AreWellFormed (followAll memorySupply memoryStorage
      [.call .addSamples, .reload, .call (.setCompleted "a" true), .call (.add ⟨" \n", none, none⟩)]
      ⟨[], ⟨"notes", "Inbox"⟩⟩ [] tickingWorld).1.1.tasks
    ∧ AreWellFormed (followAll World.system.toSupply (Backend.folderStorage "")
      [.call (.add ⟨" b ", some "\t", some " c"⟩), .reload, .call (.remove "d"), .call .tidy]
      ⟨[], ⟨"notes", "Inbox"⟩⟩ tickingWorld).1.tasks
  := by
  have hcategory : IsCategory "Inbox" := by
    constructor <;> decide
  refine ⟨isRegular_tickingWorld, hcategory, ?_, ?_⟩
  · apply ((areWellFormed_followAll isRegular_tickingWorld hcategory _).1 [] rfl).2
  · apply ((areWellFormed_followAll isRegular_tickingWorld hcategory _).2.1 "" _
      read_tickingWorld rfl).2

end Agenda.Store
