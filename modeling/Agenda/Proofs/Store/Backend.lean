import Agenda.Proofs.Storage.Replacement
import Agenda.Proofs.Store.Reload

/-!
# Backends

What the storage in memory and the storage in a folder have in common.  Programs run on
states that contain a world; identifiers and times come from that world in order.  After data
is written, what can be read under its key is that data or what could be read before, also
when the writing fails.  `Backend.inMemory` and `Backend.inFolder` show that both kinds of
storage are backends.
-/

namespace Agenda

/-! ### What a world hands out -/

namespace World

/-- The second world is the first one after some identifiers and readings have been used. -/
structure Continues (w w' : World) : Prop where
  identifiers : w'.identifiers = w.identifiers
  readings : w'.readings = w.readings
  issued : w.issued ≤ w'.issued
  read : w.read ≤ w'.read

theorem Continues.refl (w : World) :
  w.Continues w
  := ⟨rfl, rfl, Nat.le_refl _, Nat.le_refl _⟩

theorem Continues.trans {w w' w'' : World} (h : w.Continues w') (h' : w'.Continues w'') :
  w.Continues w''
  where
  identifiers := h'.identifiers.trans h.identifiers
  readings := h'.readings.trans h.readings
  issued := Nat.le_trans h.issued h'.issued
  read := Nat.le_trans h.read h'.read

/-- The world after the next identifier is used. -/
def afterFresh (w : World) : World :=
  { w with issued := w.issued + 1 }

/-- The world after the next reading of the clock. -/
def afterNow (w : World) : World :=
  { w with read := w.read + 1 }

@[simp]
theorem disk_afterNow (w : World) :
  w.afterNow.disk = w.disk
  := rfl

theorem continues_afterFresh (w : World) :
  w.Continues w.afterFresh
  := ⟨rfl, rfl, Nat.le_succ _, Nat.le_refl _⟩

theorem continues_afterNow (w : World) :
  w.Continues w.afterNow
  := ⟨rfl, rfl, Nat.le_refl _, Nat.le_succ _⟩

end World

namespace Store

open Storage (Memory Disk Fault)

/-- A supply and a storage for programs that run on states. -/
structure Backend (m : Type → Type) [Monad m] (σ : Type) where
  supply : Supply m
  storage : Storage m
  /-- The answer of a program and the state after it. -/
  run : {α : Type} → m α → σ → α × σ
  /-- The world within a state. -/
  world : σ → World
  /-- The bytes can be read under the key. -/
  Holds : σ → String → ByteArray → Prop
  run_pure : ∀ {α : Type} (a : α) (s : σ), run (pure a) s = (a, s)
  run_bind : ∀ {α β : Type} (x : m α) (f : α → m β) (s : σ),
    run (x >>= f) s = run (f (run x s).1) (run x s).2
  /-- The next identifier is issued, and nothing else can be read than before. -/
  run_fresh : ∀ s, ∃ s', run supply.fresh s = ((world s).identifiers (world s).issued, s')
    ∧ world s' = (world s).afterFresh ∧ ∀ key data, Holds s' key data → Holds s key data
  /-- The clock is read, and nothing else can be read than before. -/
  run_now : ∀ s, ∃ s', run supply.now s = ((world s).readings (world s).read, s')
    ∧ world s' = (world s).afterNow ∧ ∀ key data, Holds s' key data → Holds s key data
  /-- Reading changes nothing. -/
  run_read : ∀ s key, ∃ answer, run (storage.read key) s = (answer, s)
    ∧ ∀ data, answer = .ok data → Holds s key data
  /-- After writing, whether it succeeds or fails, only the data and what was there before can
  be read under the key. -/
  run_write : ∀ s key data, ∃ answer s', run (storage.write key data) s = (answer, s')
    ∧ (world s).Continues (world s')
    ∧ ∀ found, Holds s' key found → found = data ∨ Holds s key found

namespace Backend

/-! ### Memory -/

/-- The storage in memory, next to a world. -/
def inMemory : Backend InMemory (Memory × World) where
  supply := memorySupply
  storage := memoryStorage
  run x s := (((x s.1) s.2).1.1, ((x s.1) s.2).1.2, ((x s.1) s.2).2)
  world := Prod.snd
  Holds s key data := s.1.get? key = some data
  run_pure a s := rfl
  run_bind x f s := rfl
  run_fresh s := ⟨_, rfl, rfl, fun key data h => h⟩
  run_now s := ⟨_, rfl, rfl, fun key data h => h⟩
  run_read s key := by
    refine ⟨_, rfl, ?_⟩
    intro data h
    change (match s.1.get? key with
      | some kept => Except.ok kept
      | none => Except.error (Fault.noValue key)) = .ok data at h
    cases hkept : s.1.get? key with
    | none =>
      rw [hkept] at h
      contradiction
    | some kept =>
      rw [hkept] at h
      rw [Except.ok.inj h]
  run_write s key data := by
    refine ⟨_, _, rfl, World.Continues.refl _, ?_⟩
    intro found h
    change (s.1.put key data).get? key = some found at h
    rw [Bindings.get?_put, if_pos rfl] at h
    left
    exact (Option.some.inj h).symm

/-! ### A folder -/

/-- The storage in a folder of the disk of a world. -/
def folderStorage (folder : String) : Storage (StateM World) :=
  Storage.inFolder World.system.files World.system.fresh folder

theorem bind_apply {α β : Type} (x : StateM World α) (f : α → StateM World β) (w : World) :
  (x >>= f) w = f (x w).1 (x w).2
  := rfl

theorem discard_apply {α : Type} (x : StateM World α) (w : World) :
  discard x w = ((), (x w).2)
  := rfl

/-- An operation changes the disk of the world, or fails and changes nothing. -/
theorem onDisk_attempt_cases (change : Disk → Except Fault Disk) (w : World) :
  (∃ changed, change w.disk = .ok changed
    ∧ World.onDisk (Disk.attempt change) w = (.ok (), { w with disk := changed }))
  ∨ ∃ fault, change w.disk = .error fault
    ∧ World.onDisk (Disk.attempt change) w = (.error fault, w)
  := by
  cases hchange : change w.disk with
  | ok changed =>
    left
    use changed, rfl
    rw [World.onDisk, Disk.attempt, hchange]
  | error fault =>
    right
    use fault, rfl
    rw [World.onDisk, Disk.attempt, hchange]

/-- A file of a world is replaced on its disk. -/
theorem replaceFile_eq (folder temporary key : String) (data : ByteArray) (w : World) :
  Storage.replaceFile World.system.files folder temporary key data w
    = let (answer, disk) := w.disk.replace (Disk.join folder temporary) (Disk.join folder key) data
      (answer, { w with disk })
  := by
  simp only [Storage.replaceFile, World.system, World.files, Disk.files, Disk.replace, bind_apply]
  obtain ⟨written, hwrite, heq⟩ | ⟨fault, hwrite, heq⟩ :=
    onDisk_attempt_cases (·.write (Disk.join folder temporary) data) w
  · simp only [heq, hwrite, bind_apply]
    obtain ⟨renamed, hrename, heq'⟩ | ⟨fault, hrename, heq'⟩ := onDisk_attempt_cases
      (·.rename (Disk.join folder temporary) (Disk.join folder key)) { w with disk := written }
    · simp only [heq', hrename]
      rfl
    · simp only [heq', hrename, bind_apply, discard_apply]
      obtain ⟨removed, hremove, heq''⟩ | ⟨fault', hremove, heq''⟩ := onDisk_attempt_cases
        (·.remove (Disk.join folder temporary)) { w with disk := written }
      · simp only [heq'', hremove]
        rfl
      · simp only [heq'', hremove]
        rfl
  · simp only [heq, hwrite]
    rfl

/-- To write a key takes one identifier and replaces a file. -/
theorem folderStorage_write_eq (folder key : String) (data : ByteArray) (w : World) :
  (folderStorage folder).write key data w
    = let (answer, disk) := w.disk.replace
        (Disk.join folder (Storage.temporaryName (w.identifiers w.issued) key))
        (Disk.join folder key) data
      (answer, { w.afterFresh with disk })
  := replaceFile_eq folder _ key data w.afterFresh

/-- To delete a key removes its file. -/
theorem folderStorage_delete_eq (folder key : String) (w : World) :
  (folderStorage folder).delete key w
    = match w.disk.remove (Disk.join folder key) with
      | .ok disk => (.ok (), { w with disk })
      | .error fault => (.error fault, w)
  := by
  change World.onDisk (Disk.attempt (·.remove (Disk.join folder key))) w = _
  obtain ⟨changed, hremove, heq⟩ | ⟨fault, hremove, heq⟩ :=
    onDisk_attempt_cases (·.remove (Disk.join folder key)) w
  · rw [heq, hremove]
  · rw [heq, hremove]

/-- The storage in a folder of a world. -/
def inFolder (folder : String) : Backend (StateM World) World where
  supply := World.system.toSupply
  storage := folderStorage folder
  run x w := x w
  world w := w
  Holds w key data := w.disk.read (Disk.join folder key) = .ok data
  run_pure a w := rfl
  run_bind x f w := rfl
  run_fresh w := ⟨_, rfl, rfl, fun key data h => h⟩
  run_now w := ⟨_, rfl, rfl, fun key data h => h⟩
  run_read w key := ⟨_, rfl, fun data h => h⟩
  run_write w key data := by
    refine ⟨_, _, folderStorage_write_eq folder key data w, ?_, ?_⟩
    · exact ⟨rfl, rfl, Nat.le_succ _, Nat.le_refl _⟩
    · intro found h
      apply (Disk.rewrites_replace _ _ _ data).read_eq h

end Backend

end Store

end Agenda
