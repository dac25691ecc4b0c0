import Agenda.Proofs.Store.Backend

/-!
# Storages in exchange

Whether one can tell by its replies if a storage is in memory or in a folder.  When both are
empty at the beginning and the keys are names of files, both give the same replies to the same
operations, with one exception: to delete a key that has no value is no fault in memory, and in a
folder it is one.

The invariant is `Mirrors`: the entries of the folder are files, and these are just what the
memory keeps.
-/

namespace Agenda.Storage

open Store.Backend (folderStorage)

/-! ### Operations and replies -/

/-- An operation on a storage with its arguments. -/
inductive Access where
  | write (key : String) (data : ByteArray)
  | read (key : String)
  | holds (key : String)
  | delete (key : String)

/-- The reply of a storage to an operation. -/
inductive Reply where
  /-- The key has been written or deleted. -/
  | done
  /-- These bytes are kept under the key. -/
  | data (content : ByteArray)
  /-- Whether anything is kept under the key. -/
  | presence (isThere : Bool)
  /-- The operation has failed. -/
  | failed (fault : Fault)

namespace Reply

/-- The reply to a change. -/
def ofChange : Except Fault Unit → Reply
  | .ok () => done
  | .error fault => failed fault

/-- The reply to reading. -/
def ofContent : Except Fault ByteArray → Reply
  | .ok content => data content
  | .error fault => failed fault

/-- The replies are the same, up to the wording of a fault. -/
inductive Agrees : Reply → Reply → Prop
  | same (r : Reply) : r.Agrees r
  | fault {f f' : Fault} (h : f.kind = f'.kind) : (failed f).Agrees (failed f')

end Reply

namespace Access

/-- The key that the operation is about. -/
def key : Access → String
  | .write key _ | .read key | .holds key | .delete key => key

/-- The value of the key after the operation. -/
def value (key : String) (old : Option ByteArray) : Access → Option ByteArray
  | .write written data => if key = written then some data else old
  | .delete deleted => if key = deleted then none else old
  | .read _ | .holds _ => old

/-- The value of the key after the operations. -/
def valueAfter (key : String) (old : Option ByteArray) (accesses : List Access) :
    Option ByteArray :=
  accesses.foldl (value key) old

/-- The operation deletes a key that has no value. -/
def IsVain (old : Option ByteArray) (a : Access) : Prop :=
  a = .delete a.key ∧ old = none

/-- The reply to the operation when its key has the value: `missing` is the fault of reading what
is not there, and `vain` the reply to a deletion of it. -/
def result (old : Option ByteArray) (missing : Fault) (vain : Reply) : Access → Reply
  | .write _ _ => .done
  | .read _ => old.elim (.failed missing) .data
  | .holds _ => .presence old.isSome
  | .delete _ => if old.isSome then .done else vain

/-- What is in memory after the operation. -/
def keep (memory : Memory) : Access → Memory
  | .write key data => memory.put key data
  | .delete key => memory.drop key
  | .read _ | .holds _ => memory

section

variable {m : Type → Type} [Monad m] (storage : Storage m)

/-- What a storage replies to the operation. -/
def reply : Access → m Reply
  | .write key data => do return Reply.ofChange (← storage.write key data)
  | .read key => do return Reply.ofContent (← storage.read key)
  | .holds key => do return Reply.presence (← storage.holds key)
  | .delete key => do return Reply.ofChange (← storage.delete key)

/-- What a storage replies to the operations, one after the other. -/
def replies : List Access → m (List Reply)
  | [] => return []
  | a :: accesses => do
    let r ← a.reply storage
    return r :: (← replies accesses)

end

end Access

/-! ### Folders that mirror a memory -/

/-- The name of a file without null characters that leaves room for an identifier. -/
structure IsPlain (key : String) : Prop where
  isName : IsName key
  notMem : '\x00' ∉ key.toList
  size : key.utf8ByteSize ≤ 228

/-- The keys may be used in the folder of the world: the system admits the paths of their
temporary files, and no name of a temporary file is among the keys. -/
structure Suits (folder : String) (keys : List String) (w : World) : Prop where
  isPlain : ∀ key ∈ keys, IsPlain key
  isIdentifier : ∀ k, IsIdentifier (w.identifiers k)
  path : ∀ k, ∀ key ∈ keys,
    Disk.pathFault? (Disk.join folder (temporaryName (w.identifiers k) key)) = none
  isNew : ∀ k, ∀ key ∈ keys, temporaryName (w.identifiers k) key ∉ keys

/-- The folder has just the files that the memory keeps, all of them under some of the keys. -/
structure Mirrors (folder : String) (keys : List String) (memory : Memory) (d : Disk) : Prop where
  entries : ∃ location entries, d.Opens folder location entries
    ∧ ∀ name, Bindings.get? name entries = (memory.get? name).map .file
  mem : ∀ name, memory.get? name ≠ none → name ∈ keys

variable {folder key : String} {keys : List String} {memory : Memory} {w : World}

namespace Suits

theorem of_eq {w' : World} (h : Suits folder keys w) (hw : w'.identifiers = w.identifiers) :
  Suits folder keys w'
  := by
  constructor
  · exact h.isPlain
  · rw [hw]
    exact h.isIdentifier
  · rw [hw]
    exact h.path
  · rw [hw]
    exact h.isNew

/-- Keys that are plain may be used when the path of the folder leaves room for all names. -/
theorem of_hasRoom (hroom : Disk.HasRoom folder) (hplain : ∀ key ∈ keys, IsPlain key)
    (hidentifier : ∀ k, IsIdentifier (w.identifiers k))
    (hnew : ∀ k, ∀ key ∈ keys, temporaryName (w.identifiers k) key ∉ keys) :
  Suits folder keys w
  where
  isPlain := hplain
  isIdentifier := hidentifier
  path k key hkey := by
    obtain ⟨hname, hnull, hsize⟩ := hplain key hkey
    exact (hroom.fits_temporaryName (hidentifier k) hname hnull hsize).path
  isNew := hnew

variable (h : Suits folder keys w) (hkey : key ∈ keys)

include h hkey

theorem fits_temporaryName (k : Nat) :
  Disk.Fits folder (temporaryName (w.identifiers k) key)
  := by
  have hplain := h.isPlain key hkey
  constructor
  · apply hplain.isName.temporaryName
    apply (h.isIdentifier k).notMem
    decide
  · apply size_temporaryName_le (h.isIdentifier k) hplain.size
  · apply h.path k key hkey

theorem fits :
  Disk.Fits folder key
  := (h.fits_temporaryName hkey 0).of_append (h.isPlain key hkey).isName

end Suits

/-! ### One operation -/

/-- The storage in memory, with nothing beside it. -/
def memoryOnly : Storage (StateM Memory) := Storage.inMemory

namespace Access

theorem get?_keep (memory : Memory) (a : Access) (key : String) :
  (a.keep memory).get? key = a.value key (memory.get? key)
  := by
  cases a with
  | write written data => apply Bindings.get?_put
  | read _ => rfl
  | holds _ => rfl
  | delete deleted => apply Bindings.get?_drop

/-- What memory replies is determined by the value of the key. -/
theorem reply_memoryOnly (a : Access) (memory : Memory) :
  a.reply memoryOnly memory
    = (a.result (memory.get? a.key) (.noValue a.key) .done, a.keep memory)
  := by
  cases a with
  | write written data => rfl
  | read sought =>
    cases hkept : memory.get? sought with
    | none =>
      have hread : memoryOnly.read sought memory = (.error (.noValue sought), memory) := by
        simp only [memoryOnly, Storage.inMemory, hkept]
        rfl
      simp only [reply, bind, StateT.bind, hread]
      rw [result, key, hkept]
      rfl
    | some data =>
      have hread : memoryOnly.read sought memory = (.ok data, memory) := by
        simp only [memoryOnly, Storage.inMemory, hkept]
        rfl
      simp only [reply, bind, StateT.bind, hread]
      rw [result, key, hkept]
      rfl
  | holds _ => rfl
  | delete deleted =>
    rw [result, ite_self]
    rfl

end Access

/-- The keys that are kept remain among the keys. -/
theorem Mirrors.mem_keep {d : Disk} (h : Mirrors folder keys memory d) {a : Access}
    (ha : a.key ∈ keys) {name : String} (hname : (a.keep memory).get? name ≠ none) :
  name ∈ keys
  := by
  rw [Access.get?_keep] at hname
  cases a with
  | write written data =>
    rw [Access.value] at hname
    split at hname
    · next heq =>
      rw [heq]
      exact ha
    · apply h.mem name hname
  | read _ => apply h.mem name hname
  | holds _ => apply h.mem name hname
  | delete deleted =>
    rw [Access.value] at hname
    split at hname
    · contradiction
    · apply h.mem name hname

namespace Access

section

variable (h : Suits folder keys w) (hmirrors : Mirrors folder keys memory w.disk)
  (hkey : key ∈ keys)

include h hmirrors hkey

theorem reply_write (data : ByteArray) :
  ∃ w', (write key data).reply (folderStorage folder) w = (.done, w')
    ∧ w'.identifiers = w.identifiers
    ∧ Mirrors folder keys ((write key data).keep memory) w'.disk
  := by
  obtain ⟨location, entries, hopens, hentries⟩ := hmirrors.entries
  have hnone : Bindings.get? (temporaryName (w.identifiers w.issued) key) entries = none := by
    rw [hentries]
    by_contra hne
    apply h.isNew w.issued key hkey (hmirrors.mem _ _)
    intro hmemory
    simp [hmemory] at hne
  have hfolder : ∀ inner, Bindings.get? key entries ≠ some (.folder inner) := by
    intro inner
    rw [hentries]
    simp
  have hreplace := hopens.replace_eq (h.fits_temporaryName hkey w.issued) (h.fits hkey)
    (temporaryName_ne _ _) hnone data
  split at hreplace
  · next inner hinner => apply absurd hinner (hfolder inner)
  · use { w.afterFresh with disk := w.disk.modify location (Bindings.put key (.file data)) }
    refine ⟨?_, rfl, ⟨location, _, hopens.put hfolder data, ?_⟩,
      fun _ => hmirrors.mem_keep (a := write key data) hkey⟩
    · simp only [reply, Store.Backend.bind_apply, Store.Backend.folderStorage_write_eq, hreplace]
      rfl
    · intro name
      rw [get?_keep, Bindings.get?_put, value, hentries]
      split <;> rfl

theorem reply_read :
  (read key).reply (folderStorage folder) w
    = ((memory.get? key).elim (.failed (.os .notFound)) .data, w)
  := by
  obtain ⟨location, entries, hopens, hentries⟩ := hmirrors.entries
  have hread := hopens.read_eq (h.fits hkey)
  rw [hentries] at hread
  change (Reply.ofContent (w.disk.read (Disk.join folder key)), w) = _
  rw [hread]
  cases memory.get? key <;> rfl

theorem reply_holds :
  (holds key).reply (folderStorage folder) w = (.presence (memory.get? key).isSome, w)
  := by
  obtain ⟨location, entries, hopens, hentries⟩ := hmirrors.entries
  change (Reply.presence (w.disk.isPresent (Disk.join folder key)), w) = _
  rw [hopens.isPresent_eq (h.fits hkey), hentries, Option.isSome_map]

theorem reply_delete :
  ∃ w', (delete key).reply (folderStorage folder) w
      = (if (memory.get? key).isSome then .done else .failed (.os .notFound), w')
    ∧ w'.identifiers = w.identifiers
    ∧ Mirrors folder keys ((delete key).keep memory) w'.disk
  := by
  obtain ⟨location, entries, hopens, hentries⟩ := hmirrors.entries
  have hremove := hopens.remove_eq (h.fits hkey)
  cases hkept : memory.get? key with
  | none =>
    rw [hentries, hkept] at hremove
    refine ⟨w, ?_, rfl, ⟨location, entries, hopens, ?_⟩,
      fun _ => hmirrors.mem_keep (a := delete key) hkey⟩
    · simp only [reply, Store.Backend.bind_apply, Store.Backend.folderStorage_delete_eq, hremove]
      rfl
    · intro name
      rw [get?_keep, value, hentries]
      split
      · next heq => rw [heq, hkept]
      · rfl
  | some data =>
    rw [hentries, hkept] at hremove
    have hfolder : ∀ inner, Bindings.get? key entries ≠ some (.folder inner) := by
      intro inner
      rw [hentries]
      simp
    use { w with disk := w.disk.modify location (Bindings.drop key) }
    refine ⟨?_, rfl, ⟨location, _, hopens.drop hfolder, ?_⟩,
      fun _ => hmirrors.mem_keep (a := delete key) hkey⟩
    · simp only [reply, Store.Backend.bind_apply, Store.Backend.folderStorage_delete_eq, hremove]
      rfl
    · intro name
      rw [get?_keep, Bindings.get?_drop, value, hentries]
      split <;> rfl

end

/-- A folder replies as memory does, but with another fault, also when there is nothing to
delete. -/
theorem reply_folderStorage (h : Suits folder keys w) (hmirrors : Mirrors folder keys memory w.disk)
    {a : Access} (ha : a.key ∈ keys) :
  ∃ w', a.reply (folderStorage folder) w
      = (a.result (memory.get? a.key) (.os .notFound) (.failed (.os .notFound)), w')
    ∧ w'.identifiers = w.identifiers ∧ Mirrors folder keys (a.keep memory) w'.disk
  := by
  cases a with
  | write key data => apply reply_write h hmirrors ha
  | read key => exact ⟨w, reply_read h hmirrors ha, rfl, hmirrors⟩
  | holds key => exact ⟨w, reply_holds h hmirrors ha, rfl, hmirrors⟩
  | delete key => apply reply_delete h hmirrors ha

/-! ### Sequences of operations -/

theorem replies_memoryOnly (accesses : List Access) (memory : Memory) (i : Nat) :
  (replies memoryOnly accesses memory).1[i]? = accesses[i]?.map fun a =>
    a.result (valueAfter a.key (memory.get? a.key) (accesses.take i)) (.noValue a.key) .done
  := by
  induction accesses generalizing memory i with
  | nil => rfl
  | cons a accesses ih =>
    have hreplies : (replies memoryOnly (a :: accesses) memory).1
        = a.result (memory.get? a.key) (.noValue a.key) .done
          :: (replies memoryOnly accesses (a.keep memory)).1 := by
      simp only [replies, bind, StateT.bind, reply_memoryOnly]
      rfl
    rw [hreplies]
    cases i with
    | zero => rfl
    | succ i =>
      rw [List.getElem?_cons_succ, List.getElem?_cons_succ, ih]
      simp only [get?_keep, List.take_succ_cons, valueAfter, List.foldl_cons]

theorem replies_folderStorage (h : Suits folder keys w)
    (hmirrors : Mirrors folder keys memory w.disk) {accesses : List Access}
    (hkeys : ∀ a ∈ accesses, a.key ∈ keys) (i : Nat) :
  (replies (folderStorage folder) accesses w).1[i]? = accesses[i]?.map fun a =>
    a.result (valueAfter a.key (memory.get? a.key) (accesses.take i)) (.os .notFound)
      (.failed (.os .notFound))
  := by
  induction accesses generalizing memory w i with
  | nil => rfl
  | cons a accesses ih =>
    obtain ⟨ha, hkeys⟩ := List.forall_mem_cons.mp hkeys
    obtain ⟨w', hreply, hidentifiers, hmirrors'⟩ := reply_folderStorage h hmirrors ha
    have hreplies : (replies (folderStorage folder) (a :: accesses) w).1
        = a.result (memory.get? a.key) (.os .notFound) (.failed (.os .notFound))
          :: (replies (folderStorage folder) accesses w').1 := by
      simp only [replies, Store.Backend.bind_apply, hreply]
      rfl
    rw [hreplies]
    cases i with
    | zero => rfl
    | succ i =>
      rw [List.getElem?_cons_succ, List.getElem?_cons_succ,
        ih (h.of_eq hidentifiers) hmirrors' hkeys]
      simp only [get?_keep, List.take_succ_cons, valueAfter, List.foldl_cons]

/-- Both results agree unless there is nothing to delete. -/
theorem result_agrees {old : Option ByteArray} {a : Access} (h : ¬ a.IsVain old)
    {missing missing' : Fault} (hkind : missing.kind = missing'.kind) (vain vain' : Reply) :
  (a.result old missing vain).Agrees (a.result old missing' vain')
  := by
  cases a with
  | write key data => apply Reply.Agrees.same
  | read key =>
    cases old with
    | none => apply Reply.Agrees.fault hkind
    | some data => apply Reply.Agrees.same
  | holds key => apply Reply.Agrees.same
  | delete key =>
    cases old with
    | none => apply absurd ⟨rfl, rfl⟩ h
    | some data => apply Reply.Agrees.same

theorem result_of_isVain {old : Option ByteArray} {a : Access} (h : a.IsVain old)
    (missing : Fault) (vain : Reply) :
  a.result old missing vain = vain
  := by
  obtain ⟨ha, rfl⟩ := h
  rw [ha]
  rfl

/-- Two storages that are empty at the beginning, one in memory and one in a folder, reply the
same to every operation of a sequence, unless it is to delete a key without a value: this is done
in memory, and in a folder there is no such file. -/
theorem replies_agree {location : Location} (hempty : w.disk.Opens folder location [])
    (accesses : List Access) (h : Suits folder (accesses.map Access.key) w) {i : Nat} {a : Access}
    (ha : accesses[i]? = some a) :
  ∃ r r', (replies memoryOnly accesses []).1[i]? = some r
    ∧ (replies (folderStorage folder) accesses w).1[i]? = some r'
    ∧ (a.IsVain (valueAfter a.key none (accesses.take i)) →
      r = .done ∧ r' = .failed (.os .notFound))
    ∧ (¬ a.IsVain (valueAfter a.key none (accesses.take i)) → r.Agrees r')
  := by
  have hmirrors : Mirrors folder (accesses.map Access.key) [] w.disk := by
    refine ⟨⟨location, [], hempty, fun _ => rfl⟩, ?_⟩
    intro name hname
    contradiction
  have hkeys : ∀ a ∈ accesses, a.key ∈ accesses.map Access.key :=
    fun a ha => List.mem_map_of_mem ha
  rw [replies_memoryOnly, replies_folderStorage h hmirrors hkeys, ha]
  refine ⟨_, _, rfl, rfl, ?_, ?_⟩
  · intro hvain
    exact ⟨result_of_isVain hvain _ _, result_of_isVain hvain _ _⟩
  · intro hnot
    apply result_agrees hnot
    rfl

/-- A world without files. -/
def emptyWorld : World :=
  { Store.stillWorld with identifiers := fun k => Identifier.make k k }

theorem opens_emptyWorld :
  emptyWorld.disk.Opens "" [] []
  := ⟨rfl, rfl⟩

theorem suits_emptyWorld :
  Suits "" ["key", "key", "key"] emptyWorld
  := by
  have hplain : IsPlain "key" :=
    ⟨⟨by decide, by decide, by decide, by decide⟩, by decide, by decide⟩
  apply Suits.of_hasRoom
  · exact ⟨by decide, by decide⟩
  · simpa using hplain
  · exact fun k => ⟨k, k, rfl⟩
  · intro k key hkey
    obtain rfl : key = "key" := by simpa using hkey
    simpa using temporaryName_ne (emptyWorld.identifiers k) "key"

theorem mirrors_emptyWorld :
  Mirrors "" ["key", "key", "key"] [] emptyWorld.disk
  := ⟨⟨[], [], opens_emptyWorld, fun _ => rfl⟩, fun _ hname => absurd rfl hname⟩

/-- A key that was written and deleted is read: both storages report that there is nothing. -/
theorem replies_agree_emptyWorld :
  emptyWorld.disk.Opens "" [] [] ∧ Suits "" ["key", "key", "key"] emptyWorld
    ∧ ∃ r r', (replies memoryOnly [write "key" ByteArray.empty, delete "key", read "key"] []).1[2]?
        = some r
      ∧ (replies (folderStorage "") [write "key" ByteArray.empty, delete "key", read "key"]
        emptyWorld).1[2]? = some r'
      ∧ r.Agrees r'
  := by
  obtain ⟨r, r', hmemory, hfolder, -, hagrees⟩ := replies_agree opens_emptyWorld
    [write "key" ByteArray.empty, delete "key", read "key"] suits_emptyWorld
    (i := 2) (a := read "key") rfl
  refine ⟨opens_emptyWorld, suits_emptyWorld, r, r', hmemory, hfolder, hagrees ?_⟩
  rintro ⟨hdelete, -⟩
  contradiction

/-- The two storages do not reply the same when a key is deleted that was never written. -/
theorem delete_disagrees :
  emptyWorld.disk.Opens "" [] [] ∧ Suits "" ["key", "key", "key"] emptyWorld
    ∧ (replies memoryOnly [delete "key"] []).1 = [.done]
    ∧ (replies (folderStorage "") [delete "key"] emptyWorld).1 = [.failed (.os .notFound)]
    ∧ ¬ Reply.done.Agrees (.failed (.os .notFound))
  := by
  obtain ⟨w', hreply, -⟩ :=
    reply_delete suits_emptyWorld mirrors_emptyWorld (List.mem_cons_self ..)
  refine ⟨opens_emptyWorld, suits_emptyWorld, rfl, ?_, ?_⟩
  · simp only [replies, Store.Backend.bind_apply, hreply]
    rfl
  · rintro ⟨⟩

end Access

end Agenda.Storage
