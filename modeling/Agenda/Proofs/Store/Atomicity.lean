import Agenda.Proofs.Storage.Interchange
import Agenda.Proofs.Store.Outcome

/-!
# Failed calls

What a call leaves behind when the list is kept in a folder.  A call that is refused changes
nothing at all.  A call whose list cannot be written leaves the disk as it was, without a
temporary file, while the store keeps the change; the next list that is written contains it.  So
what is found on the disk is at any time the complete list after some of the calls, and after a
call that succeeds it is the list of the store.
-/

namespace Agenda

/-- The identifiers to come are new: no entry of the folder, except that of the key, begins with
one of them. -/
structure World.IsFreshFor (w : World) (folder key : String) : Prop where
  isIdentifier : ∀ k, w.issued ≤ k → IsIdentifier (w.identifiers k)
  isUnused : ∀ k, w.issued ≤ k → w.disk.IsUnused folder key (w.identifiers k)

/-- Identifiers remain new when the disk stays as it is. -/
theorem World.IsFreshFor.of_continues {w w' : World} {folder key : String}
    (h : w.IsFreshFor folder key) (hw : w.Continues w') (hdisk : w'.disk = w.disk) :
  w'.IsFreshFor folder key
  := by
  constructor
  · intro k hk
    rw [hw.identifiers]
    apply h.isIdentifier k (Nat.le_trans hw.issued hk)
  · intro k hk
    rw [hw.identifiers, hdisk]
    apply h.isUnused k (Nat.le_trans hw.issued hk)

/-- In an empty folder all identifiers are new. -/
theorem isFreshFor_emptyWorld {key : String} :
  Storage.Access.emptyWorld.IsFreshFor "" key
  := by
  refine ⟨fun k _ => ⟨k, k, rfl⟩, ?_⟩
  intro k _ location entries name hopens hname
  obtain ⟨rfl, rfl⟩ := Storage.Access.opens_emptyWorld.unique hopens
  contradiction

namespace Store

open Storage (Disk Fault)
open Backend (folderStorage)

variable {w : World} {s : Store} {folder : String}

/-! ### The list in a folder -/

/-- What a file name ends with makes a name of whatever has no slash before it. -/
theorem isName_listKey {o : Options} (h : '/' ∉ o.key.toList) :
  Storage.IsName o.listKey
  := by
  have hdots : o.listKey ≠ "." ∧ o.listKey ≠ ".." := by
    apply Storage.ne_dots_of_mem (c := 'j')
    · simp [Options.listKey]
    · decide
  refine ⟨?_, ?_, hdots.1, hdots.2⟩
  · simp [Options.listKey]
  · simp [Options.listKey, h]

theorem endsInName_listKey (o : Options) :
  Storage.EndsInName o.listKey
  := by
  by_cases hslash : '/' ∈ o.key.toList
  · obtain ⟨back, front, hkey, hback⟩ :=
      List.eq_append_cons_of_mem (List.mem_reverse.mpr hslash)
    right
    use String.ofList front.reverse, String.ofList back.reverse ++ ".json"
    constructor
    · apply isName_listKey (o := ⟨String.ofList back.reverse, o.defaultCategory⟩)
      simpa using hback
    · apply String.toList_inj.mp
      have hlist : o.key.toList = front.reverse ++ '/' :: back.reverse := by
        rw [← List.reverse_reverse o.key.toList, hkey]
        simp
      simp [Options.listKey, hlist]
  · left
    apply isName_listKey hslash

theorem load_folder_eq (folder : String) (options : Options) (w : World) :
  load (folderStorage folder) options w
    = (match w.disk.read (Disk.join folder options.listKey) with
      | .ok data =>
        (Task.decode? data).elim (.error .malformed) fun tasks => .ok ⟨tasks, options⟩
      | .error fault =>
        if fault.isNotFound then .ok ⟨[], options⟩ else .error (.storage fault), w)
  := by
  have hrun : (folderStorage folder).read options.listKey w
      = (w.disk.read (Disk.join folder options.listKey), w) := rfl
  simp only [load, Backend.bind_apply, hrun]
  cases hread : w.disk.read (Disk.join folder options.listKey) with
  | ok data =>
    simp only
    cases Task.decode? data <;> rfl
  | error fault =>
    simp only
    split <;> rfl

/-- To write the list takes one identifier and replaces a file. -/
theorem save_eq (folder : String) (s : Store) (w : World) :
  s.save (folderStorage folder) w
    = let (answer, disk) := w.disk.replace
        (Disk.join folder (Storage.temporaryName (w.identifiers w.issued) s.options.listKey))
        (Disk.join folder s.options.listKey) (Task.encode s.tasks)
      (answer, { w.afterFresh with disk })
  := Backend.folderStorage_write_eq folder _ _ w

/-- The list is written, and it is then what is loaded, or the disk stays as it is. -/
theorem save_cases (h : w.IsFreshFor folder s.options.listKey) :
  (∃ fault, s.save (folderStorage folder) w = (.error fault, w.afterFresh))
  ∨ ∃ w', s.save (folderStorage folder) w = (.ok (), w')
    ∧ load (folderStorage folder) s.options w' = (.ok s, w')
    ∧ w'.IsFreshFor folder s.options.listKey
  := by
  have hsave := save_eq folder s w
  have hid : '/' ∉ (w.identifiers w.issued).toList :=
    (h.isIdentifier w.issued (Nat.le_refl _)).notMem (by decide)
  obtain ⟨fault, hreplace⟩ | ⟨location, entries, hopens, hfits, hfolder, hreplace⟩ :=
    (h.isUnused w.issued (Nat.le_refl _)).replace_cases hid (endsInName_listKey s.options)
      (Task.encode s.tasks)
  · left
    use fault
    rw [hsave, hreplace]
    rfl
  · right
    rw [hreplace] at hsave
    refine ⟨_, hsave, ?_, ?_⟩
    · have hread : (w.disk.modify location (Bindings.put s.options.listKey
            (.file (Task.encode s.tasks)))).read (Disk.join folder s.options.listKey)
          = .ok (Task.encode s.tasks) := by
        rw [(hopens.put hfolder _).read_eq hfits, Bindings.get?_put, if_pos rfl]
      simp only [load_folder_eq, hread, Task.decode?_encode]
      rfl
    · constructor
      · intro k hk
        apply h.isIdentifier k (Nat.le_of_succ_le hk)
      · intro k hk
        apply (h.isUnused k (Nat.le_of_succ_le hk)).put hopens hfolder

/-! ### Actions on a folder -/

/-- A change that can be made is made and then written. -/
theorem apply_folderStorage {α : Type} {change : Change α} {answer : α} {tasks : List Task}
    (h : change s.tasks = .ok (answer, tasks)) (folder : String) (w : World) :
  s.apply (folderStorage folder) change w
    = match Store.save (folderStorage folder) { s with tasks } w with
      | (.ok (), w') => ((.ok answer, { s with tasks }), w')
      | (.error fault, w') => ((.error (.storage fault), { s with tasks }), w')
  := by
  rw [apply, h]
  simp only [Backend.bind_apply]
  rcases Store.save (folderStorage folder) { s with tasks } w with ⟨_ | _, w'⟩ <;> rfl

/-- The same for an action that applies the change. -/
theorem applied_inFolder {α : Type} {act : StateM World (Except Error α × Store)}
    {change : Change α} {spent : World} {answer : α} {tasks : List Task}
    (happlies : (Backend.inFolder folder).Applies s act change w spent)
    (h : change s.tasks = .ok (answer, tasks)) :
  act w = match Store.save (folderStorage folder) { s with tasks } spent with
    | (.ok (), w') => ((.ok answer, { s with tasks }), w')
    | (.error fault, w') => ((.error (.storage fault), { s with tasks }), w')
  := (happlies.run_eq h).trans (apply_folderStorage h folder spent)

/-- To add a task takes an identifier and a time when its title is not blank. -/
theorem applies_add_inFolder (folder : String) (s : Store) (draft : Draft) (w : World) :
  (Backend.inFolder folder).Applies s (s.add World.system.toSupply (folderStorage folder) draft)
    (create s.options.defaultCategory draft w.birth) w w.afterBirth
  := by
  obtain ⟨spent, happlies, hworld, -⟩ := (Backend.inFolder folder).applies_add s draft w
  obtain rfl : spent = w.afterBirth := hworld
  exact happlies

/-- To mark a task takes a time when there is such a task and it is to be completed. -/
theorem applies_setCompleted_inFolder (folder : String) (s : Store) (id : String) (completed : Bool)
    (w : World) :
  ∃ spent, spent.disk = w.disk ∧ (Backend.inFolder folder).Applies s
    (s.setCompleted World.system.toSupply (folderStorage folder) id completed)
    (mark id (if completed then some (w.readings w.read).stamp else none)) w spent
  := by
  obtain ⟨spent, happlies, hworld, -⟩ :=
    (Backend.inFolder folder).applies_setCompleted s id completed w
  refine ⟨spent, ?_, happlies⟩
  obtain rfl : spent = if completed then w.afterNow else w := hworld
  cases completed <;> rfl

/-! ### One call -/

theorem ends_folder (folder : String) (call : Call) (s : Store) (w : World) :
  (Backend.inFolder folder).Ends s w (call.spent w) (call.left s w)
    (call.perform World.system.toSupply (folderStorage folder) s w)
  := by
  obtain ⟨spent, hspent, hends⟩ := (Backend.inFolder folder).ends_perform call s w
  obtain rfl : spent = call.spent w := hspent
  exact hends

/-- How a call ends on a folder: refused, with the list unwritten, or with the list written. -/
theorem perform_cases (hw : w.IsFreshFor folder s.options.listKey) (call : Call) :
  (∃ answer e, call.left s w = .error e ∧ answer.error? = some e
    ∧ call.perform World.system.toSupply (folderStorage folder) s w = ((answer, s), w))
  ∨ (∃ answer tasks fault, call.left s w = .ok tasks ∧ answer.error? = some (.storage fault)
    ∧ call.perform World.system.toSupply (folderStorage folder) s w
      = ((answer, { s with tasks }), (call.spent w).afterFresh))
  ∨ ∃ answer tasks w', call.left s w = .ok tasks ∧ answer.error? = none
    ∧ call.perform World.system.toSupply (folderStorage folder) s w
      = ((answer, { s with tasks }), w')
    ∧ load (folderStorage folder) s.options w' = (.ok { s with tasks }, w')
    ∧ w'.IsFreshFor folder s.options.listKey
  := by
  have hends := ends_folder folder call s w
  have hfresh : (call.spent w).IsFreshFor folder s.options.listKey :=
    hw.of_continues (continues_spent call w) rfl
  generalize call.perform World.system.toSupply (folderStorage folder) s w = result at hends
  generalize call.left s w = left at hends
  cases hends with
  | @refused answer e h =>
    left
    exact ⟨answer, e, rfl, h, rfl⟩
  | @saved answer tasks w' h hsave =>
    right
    right
    have hsave' : Store.save (folderStorage folder) { s with tasks } (call.spent w)
        = (.ok (), w') := hsave
    obtain ⟨fault, heq⟩ | ⟨w'', heq, hload, hfresh'⟩ :=
      save_cases (s := { s with tasks }) hfresh
    · rw [hsave'] at heq
      have hanswer := congrArg Prod.fst heq
      contradiction
    · rw [hsave'] at heq
      obtain ⟨-, rfl⟩ := Prod.mk.inj heq
      exact ⟨answer, tasks, w', rfl, h, rfl, hload, hfresh'⟩
  | @unsaved answer tasks w' fault h hsave =>
    right
    left
    have hsave' : Store.save (folderStorage folder) { s with tasks } (call.spent w)
        = (.error fault, w') := hsave
    obtain ⟨fault', heq⟩ | ⟨w'', heq, -, -⟩ := save_cases (s := { s with tasks }) hfresh
    · rw [hsave'] at heq
      obtain ⟨-, rfl⟩ := Prod.mk.inj heq
      exact ⟨answer, tasks, fault, rfl, h, rfl⟩
    · rw [hsave'] at heq
      have hanswer := congrArg Prod.fst heq
      contradiction

/-- In memory every list can be written. -/
theorem perform_inMemory {call : Call} {tasks : List Task} (h : call.left s w = .ok tasks)
    (memory : Storage.Memory) :
  ∃ answer kept w', answer.error? = none
    ∧ call.perform memorySupply memoryStorage s memory w
      = (((answer, { s with tasks }), kept), w')
  := by
  obtain ⟨spent, -, hends⟩ := Backend.inMemory.ends_perform call s (memory, w)
  rcases hperform : call.perform memorySupply memoryStorage s memory w with ⟨⟨result, kept⟩, w'⟩
  have hrun : Backend.inMemory.run (call.perform memorySupply memoryStorage s) (memory, w)
      = (result, kept, w') := by
    simp only [Backend.inMemory, hperform]
  change Backend.inMemory.Ends s (memory, w) spent (call.left s w)
    (Backend.inMemory.run (call.perform memorySupply memoryStorage s) (memory, w)) at hends
  rw [h, hrun] at hends
  cases hends with
  | @saved answer _ _ hanswer _ => exact ⟨answer, kept, w', hanswer, rfl⟩
  | unsaved _ hsave =>
    have hsaved : (Backend.inMemory.run (save Backend.inMemory.storage { s with tasks }) spent).1
        = .ok () := rfl
    rw [hsave] at hsaved
    contradiction

/-- A call that is refused changes nothing, and takes nothing from the world either.  A call whose
list cannot be written leaves the disk as it was and the store as it is in memory, where every list
can be written.  A call that succeeds leaves the store that is then loaded. -/
def Call.IsAtomic (folder : String) (s : Store) (w : World) (call : Call) : Prop :=
  let ((answer, changed), w') :=
    call.perform World.system.toSupply (folderStorage folder) s w
  match answer.error? with
  | none => load (folderStorage folder) s.options w' = (.ok changed, w')
  | some (.storage _) =>
    w'.disk = w.disk ∧ ∀ memory,
      let (answer', changed') := (call.perform memorySupply memoryStorage s memory w).1.1
      answer'.error? = none ∧ changed' = changed
  | some e => (e = .emptyTitle ∨ ∃ id, e = .notFound id) ∧ changed = s ∧ w' = w

theorem isAtomic (hw : w.IsFreshFor folder s.options.listKey) (call : Call) :
  call.IsAtomic folder s w
  := by
  rw [Call.IsAtomic]
  obtain ⟨answer, e, hleft, herror, heq⟩ | ⟨answer, tasks, fault, hleft, herror, heq⟩
    | ⟨answer, tasks, w', -, herror, heq, hload, -⟩ := perform_cases hw call
  · obtain rfl | ⟨id, rfl⟩ := error_of_left hleft
    · simp only [heq, herror]
      exact ⟨.inl trivial, trivial, trivial⟩
    · simp only [heq, herror]
      exact ⟨.inr ⟨id, rfl⟩, trivial, trivial⟩
  · simp only [heq, herror]
    use rfl
    intro memory
    obtain ⟨answer', kept, w', hanswer, hperform⟩ := perform_inMemory hleft memory
    rw [hperform]
    exact ⟨hanswer, rfl⟩
  · simp only [heq, herror]
    exact hload

/-- Up to the disk, what a call leaves depends on the list that it makes only. -/
theorem perform_eq (folder : String) (call : Call) (s : Store) (w : World) :
  ∃ answer disk, call.perform World.system.toSupply (folderStorage folder) s w
    = match call.left s w with
      | .error _ => ((answer, s), { w with disk })
      | .ok tasks => ((answer, { s with tasks }), { (call.spent w).afterFresh with disk })
  := by
  have hends := ends_folder folder call s w
  have hsave : ∀ {tasks written w'}, (Backend.inFolder folder).run
      (save (Backend.inFolder folder).storage { s with tasks }) (call.spent w) = (written, w') →
      w' = { (call.spent w).afterFresh with disk := w'.disk } := by
    intro tasks written w' hsave
    have hw' : (Store.save (folderStorage folder) { s with tasks } (call.spent w)).2 = w' :=
      congrArg Prod.snd hsave
    rw [← hw', save_eq]
  generalize call.perform World.system.toSupply (folderStorage folder) s w = result at hends
  generalize call.left s w = left at hends
  cases hends with
  | @refused answer e h => exact ⟨answer, w.disk, rfl⟩
  | @saved answer tasks w' h hsaved => exact ⟨answer, w'.disk, by rw [← hsave hsaved]⟩
  | @unsaved answer tasks w' fault h hsaved => exact ⟨answer, w'.disk, by rw [← hsave hsaved]⟩

/-- On another disk a call leaves the same store and takes the same from the world. -/
theorem perform_of_disk (folder : String) (call : Call) (s : Store) (w : World) (disk : Disk) :
  let ((_, changed), w') := call.perform World.system.toSupply (folderStorage folder) s w
  ∃ answer disk', call.perform World.system.toSupply (folderStorage folder) s { w with disk }
    = ((answer, changed), { w' with disk := disk' })
  := by
  obtain ⟨answer, left, hperform⟩ := perform_eq folder call s w
  obtain ⟨answer', left', hperform'⟩ := perform_eq folder call s { w with disk }
  rw [left_of_disk] at hperform'
  rw [hperform, hperform']
  cases call.left s w with
  | error e => exact ⟨answer', left', rfl⟩
  | ok tasks => exact ⟨answer', left', rfl⟩

/-- A call that fails leaves the disk as it is, and after one that succeeds its store is loaded.
The options are kept, and the identifiers to come remain new. -/
theorem perform_step (hw : w.IsFreshFor folder s.options.listKey) (call : Call) :
  let ((answer, changed), w') := call.perform World.system.toSupply (folderStorage folder) s w
  changed.options = s.options ∧ w'.IsFreshFor folder s.options.listKey
    ∧ (answer.error? ≠ none ∧ w'.disk = w.disk
      ∨ answer.error? = none ∧ load (folderStorage folder) s.options w' = (.ok changed, w'))
  := by
  obtain ⟨answer, e, -, herror, heq⟩ | ⟨answer, tasks, fault, -, herror, heq⟩
    | ⟨answer, tasks, w', -, herror, heq, hload, hfresh⟩ := perform_cases hw call
  · rw [heq]
    refine ⟨rfl, hw, .inl ⟨?_, rfl⟩⟩
    rw [herror]
    apply Option.some_ne_none
  · rw [heq]
    have hcontinues := (continues_spent call w).trans (World.continues_afterFresh _)
    refine ⟨rfl, hw.of_continues hcontinues rfl, .inl ⟨?_, rfl⟩⟩
    rw [herror]
    apply Option.some_ne_none
  · rw [heq]
    exact ⟨rfl, hfresh, .inr ⟨herror, hload⟩⟩

/-! ### Runs -/

theorem performAll_cons_apply {m : Supply (StateM World)} (storage : Storage (StateM World))
    (call : Call) (calls : List Call) (s : Store) (w : World) :
  performAll m storage (call :: calls) s w
    = let ((answer, s₁), w₁) := call.perform m storage s w
      let ((answers, s₂), w₂) := performAll m storage calls s₁ w₁
      ((answer :: answers, s₂), w₂)
  := rfl

/-- The disk makes no difference for the store that calls leave. -/
theorem performAll_of_disk (folder : String) (calls : List Call) (s : Store) (w : World)
    (disk : Disk) :
  (performAll World.system.toSupply (folderStorage folder) calls s { w with disk }).1.2
    = (performAll World.system.toSupply (folderStorage folder) calls s w).1.2
  := by
  induction calls generalizing s w disk with
  | nil => rfl
  | cons call calls ih =>
    obtain ⟨answer, disk', hperform⟩ := perform_of_disk folder call s w disk
    rw [performAll_cons_apply, performAll_cons_apply, hperform]
    apply ih

/-- What is loaded depends on the disk only. -/
theorem load_of_disk {w' : World} (h : w'.disk = w.disk) (options : Options) :
  (load (folderStorage folder) options w').1 = (load (folderStorage folder) options w).1
  := by
  rw [load_folder_eq, load_folder_eq, h]

/-- Whatever calls are made, the options are kept and the identifiers to come remain new. -/
theorem isFreshFor_performAll (hw : w.IsFreshFor folder s.options.listKey) (calls : List Call) :
  let ((_, changed), w') := performAll World.system.toSupply (folderStorage folder) calls s w
  changed.options = s.options ∧ w'.IsFreshFor folder s.options.listKey
  := by
  induction calls generalizing s w with
  | nil => exact ⟨rfl, hw⟩
  | cons call calls ih =>
    obtain ⟨hoptions, hfresh, -⟩ := perform_step hw call
    rw [← hoptions] at hfresh ⊢
    apply ih hfresh

/-- Nothing is written by calls all of which fail. -/
theorem disk_performAll (hw : w.IsFreshFor folder s.options.listKey) (calls : List Call) :
  let ((answers, _), w') := performAll World.system.toSupply (folderStorage folder) calls s w
  (∀ answer ∈ answers, answer.error? ≠ none) → w'.disk = w.disk
  := by
  induction calls generalizing s w with
  | nil => exact fun _ => rfl
  | cons call calls ih =>
    obtain ⟨hoptions, hfresh, hdisk⟩ := perform_step hw call
    rw [performAll_cons_apply]
    intro hall
    obtain ⟨hfirst, hlater⟩ := List.forall_mem_cons.mp hall
    obtain ⟨-, hdisk⟩ | ⟨hnone, -⟩ := hdisk
    · rw [← hoptions] at hfresh
      exact (ih hfresh hlater).trans hdisk
    · apply absurd hnone hfirst

/-- What is loaded is what was there before all calls or the list after some of them. -/
theorem load_performAll (hw : w.IsFreshFor folder s.options.listKey) (calls : List Call) :
  let w' := (performAll World.system.toSupply (folderStorage folder) calls s w).2
  (load (folderStorage folder) s.options w').1 = (load (folderStorage folder) s.options w).1
  ∨ ∃ earlier, earlier <+: calls ∧ (load (folderStorage folder) s.options w').1
    = .ok (performAll World.system.toSupply (folderStorage folder) earlier s w).1.2
  := by
  induction calls generalizing s w with
  | nil =>
    left
    rfl
  | cons call calls ih =>
    obtain ⟨hoptions, hfresh, hdisk⟩ := perform_step hw call
    rw [← hoptions] at hfresh
    have hlater := ih hfresh
    rw [hoptions] at hlater
    obtain hsame | ⟨earlier, hearlier, hload⟩ := hlater
    · obtain ⟨-, hdisk⟩ | ⟨-, hload⟩ := hdisk
      · left
        exact hsame.trans (load_of_disk hdisk s.options)
      · right
        use [call], List.prefix_append [call] calls
        rw [hload] at hsame
        exact hsame
    · right
      use call :: earlier, List.prefix_cons_inj call |>.mpr hearlier
      exact hload

/-- Calls on a list that is kept in a folder.  After any calls the next one is refused without
any effect, leaves the disk as it is when the list cannot be written, or leaves what is then
loaded.  When all calls have failed, the disk is as it was at the beginning.  The store is what
the same calls leave on any other disk, and so it has the changes that could not be written.
What is loaded is what could be loaded at the beginning or the store after some of the calls. -/
theorem performAll_atomic (hw : w.IsFreshFor folder s.options.listKey) (calls : List Call) :
  let ((answers, changed), w') :=
    performAll World.system.toSupply (folderStorage folder) calls s w
  (∀ call : Call, call.IsAtomic folder changed w')
    ∧ ((∀ answer ∈ answers, answer.error? ≠ none) → w'.disk = w.disk)
    ∧ (∀ disk, (performAll World.system.toSupply (folderStorage folder) calls s
      { w with disk }).1.2 = changed)
    ∧ ((load (folderStorage folder) s.options w').1 = (load (folderStorage folder) s.options w).1
      ∨ ∃ earlier, earlier <+: calls ∧ (load (folderStorage folder) s.options w').1
        = .ok (performAll World.system.toSupply (folderStorage folder) earlier s w).1.2)
  := by
  obtain ⟨hoptions, hfresh⟩ := isFreshFor_performAll hw calls
  rw [← hoptions] at hfresh
  exact ⟨isAtomic hfresh, disk_performAll hw calls, performAll_of_disk folder calls s w,
    load_performAll hw calls⟩

/-- A world in whose working folder another folder stands where the file of the notes is to
be. -/
def blockedWorld : World :=
  { stillWorld with
    disk := ⟨.folder [("notes.json", .folder [("inner", .file ByteArray.empty)])], []⟩
    identifiers := fun k => Identifier.make k 0 }

theorem opens_blockedWorld :
  blockedWorld.disk.Opens "" []
    [("notes.json", .folder [("inner", .file ByteArray.empty)])]
  := ⟨rfl, rfl⟩

theorem isFreshFor_blockedWorld :
  blockedWorld.IsFreshFor "" noteStore.options.listKey
  := by
  refine ⟨fun k _ => ⟨k, 0, rfl⟩, ?_⟩
  intro k _ location entries name hopens hname hkey
  obtain ⟨rfl, rfl⟩ := opens_blockedWorld.unique hopens
  have hother : "notes.json" ≠ name := hkey.symm
  simp [Bindings.get?, hother] at hname

/-- In that world no list is written. -/
theorem save_blockedWorld (tasks : List Task) :
  Store.save (folderStorage "") { noteStore with tasks } blockedWorld
    = (.error (.os .isADirectory), blockedWorld.afterFresh)
  := by
  have hroom : Disk.HasRoom "" := ⟨by decide, by decide⟩
  have hname : Storage.IsName "notes.json" := ⟨by decide, by decide, by decide, by decide⟩
  have hid : IsIdentifier (blockedWorld.identifiers blockedWorld.issued) := ⟨0, 0, rfl⟩
  have hreplace := opens_blockedWorld.replace_eq
    (hroom.fits_temporaryName hid hname (by decide) (by decide))
    (hroom.fits hname (by decide) (by decide)) (Storage.temporaryName_ne _ _) (by decide)
    (Task.encode tasks)
  have hkey : noteStore.options.listKey = "notes.json" := rfl
  rw [save_eq, hkey, hreplace]
  rfl

/-- The file of the notes cannot be written, but the tasks are removed from the store. -/
theorem performAll_atomic_blockedWorld :
  blockedWorld.IsFreshFor "" noteStore.options.listKey
    ∧ let ((answers, changed), w') :=
        performAll World.system.toSupply (folderStorage "") [.removeAll] noteStore blockedWorld
      answers.map Answer.error? = [some (.storage (.os .isADirectory))]
        ∧ changed.tasks = [] ∧ w'.disk = blockedWorld.disk
        ∧ Call.tidy.IsAtomic "" changed w'
  := by
  have hrun : performAll World.system.toSupply (folderStorage "") [.removeAll] noteStore
      blockedWorld
      = (([.count (.error (.storage (.os .isADirectory)))], { noteStore with tasks := [] }),
        blockedWorld.afterFresh) := by
    simp only [performAll, Call.perform, removeAll, apply, clear, Backend.bind_apply,
      save_blockedWorld []]
    rfl
  have hatomic := performAll_atomic isFreshFor_blockedWorld [.removeAll]
  rw [hrun] at hatomic ⊢
  obtain ⟨hcalls, hdisk, -⟩ := hatomic
  have hfailed : ∀ answer ∈ [Answer.count (.error (.storage (.os .isADirectory)))],
      answer.error? ≠ none := by
    simp [Answer.error?, error?]
  exact ⟨isFreshFor_blockedWorld, rfl, rfl, hdisk hfailed, hcalls .tidy⟩

end Store

end Agenda
