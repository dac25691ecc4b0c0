import Agenda.Proofs.Storage.Frame
import Agenda.Proofs.Storage.Interchange

/-!
# The names in a folder

Which files a folder has after keys were written and deleted.  A write under any key is all or
nothing, and it leaves no temporary file.  So when the keys have no slashes, the names in the folder
after any operations are those that were there and the keys that were written, except the ones that
were deleted later.  Operations that fail make no difference.
-/

namespace Agenda

open Store.Backend (folderStorage)

namespace Storage

namespace Disk

variable {d d' : Disk} {folder key path source name : String} {location : Location}
  {entries : Bindings Node} {data : ByteArray}

/-! ### Data under a key -/

/-- What is stored can be read. -/
theorem Stores.read_eq (h : d.Stores path data d') :
  d'.read path = .ok data
  := by
  obtain ⟨location, name, htarget, hsize, hfolder, hfile, rfl⟩ := h
  apply read_eq_ok_iff.mpr
  refine ⟨location, name, ?_, ?_⟩
  · apply target_of_keepsFolders (keepsFolders_put hfile data) rfl htarget
  · apply lookup_eq_ok_iff.mpr ⟨hsize, get?_put hfolder name _⟩

/-- Where nothing was, nothing is after data is stored under another path. -/
theorem Stores.isPresent_eq_false (h : d.Stores path data d') (hnew : d.isPresent source = false)
    (hother : d.target source ≠ d.target path) :
  d'.isPresent source = false
  := by
  obtain ⟨location, name, htarget, hsize, hfolder, hfile, rfl⟩ := h
  have hrewrites := rewrites_modify (Node.refiles_put name data) location d
  rw [isPresent] at hnew ⊢
  cases hfound : (d.modify location (Bindings.put name (.file data))).target source with
  | error fault => rfl
  | ok found =>
    rw [hrewrites.target_eq hfound] at hnew hother
    obtain _ | ⟨origin, oldName, slash⟩ := found
    · contradiction
    · simp only at hnew ⊢
      rcases hlookup : (d.modify location (Bindings.put name (.file data))).lookup origin oldName
        with _ | _ | content | inner
      · rfl
      · rfl
      · obtain ⟨hlength, hget⟩ := lookup_eq_ok_iff.mp hlookup
        by_cases hplace : origin ++ [oldName] = location ++ [name]
        · obtain ⟨rfl, hname⟩ := List.append_inj' hplace rfl
          obtain rfl := List.singleton_inj.mp hname
          rw [htarget] at hother
          simpa using hother
        · have hcontent := (Node.content?_modify_put hfile hplace).symm.trans
            (Node.content?_eq_some_iff.mpr hget)
          rw [lookup_eq_ok_iff.mpr ⟨hlength, Node.content?_eq_some_iff.mp hcontent⟩] at hnew
          exact hnew
      · obtain ⟨old, hold⟩ := hrewrites.lookup_folder hlookup
        rw [hold] at hnew
        contradiction

/-! ### Names -/

/-- The folder has an entry of that name, which may be a file or a folder. -/
def HasEntry (d : Disk) (folder name : String) : Prop :=
  ∃ location, d.base folder = .ok location ∧ d.root.get? (location ++ [name]) ≠ none

theorem Opens.hasEntry_iff (h : d.Opens folder location entries) :
  d.HasEntry folder name ↔ Bindings.get? name entries ≠ none
  := by
  constructor
  · rintro ⟨location', hbase, hname⟩
    obtain rfl := Except.ok.inj (h.base.symm.trans hbase)
    rw [h.get?_eq] at hname
    exact hname
  · intro hname
    use location, h.base
    rw [h.get?_eq]
    exact hname

/-- The key is a name in the folder after data is stored under it. -/
theorem Stores.hasEntry_iff (h : d.Stores (join folder key) data d') (hslash : '/' ∉ key.toList) :
  d'.HasEntry folder name ↔ name = key ∨ d.HasEntry folder name
  := by
  obtain ⟨location, entries, hopens, -, hfile, rfl⟩ := h.opens hslash
  rw [(hopens.put hfile data).hasEntry_iff, hopens.hasEntry_iff, Bindings.get?_put]
  split
  · next heq => simp [heq]
  · next hne => simp [hne]

/-- The key is no name in the folder after its file is removed. -/
theorem hasEntry_remove_iff (h : d.remove (join folder key) = .ok d') (hslash : '/' ∉ key.toList) :
  d'.HasEntry folder name ↔ name ≠ key ∧ d.HasEntry folder name
  := by
  obtain ⟨location, found, content, htarget, hcontent, rfl⟩ := remove_cases h
  have hkey := isName_of_target_join hslash htarget
  obtain ⟨-, hbase, rfl, -⟩ := entry_of_target_join hkey htarget
  obtain ⟨entries, hentries⟩ := isFolder_of_get? (List.cons_ne_nil _ []) hcontent
  have hopens : d.Opens folder location entries := ⟨hbase, hentries⟩
  have hfile : ∀ inner, Bindings.get? found entries ≠ some (.folder inner) := by
    intro inner hinner
    rw [hopens.get?_eq, hinner] at hcontent
    cases hcontent
  rw [(hopens.drop hfile).hasEntry_iff, hopens.hasEntry_iff, Bindings.get?_drop]
  split
  · next heq => simp [heq]
  · next hne => simp [hne]

end Disk

/-! ### Writes to a folder -/

end Storage

namespace World

/-- The path of the temporary file that is next, when the key is written. -/
def temporaryPath (w : World) (folder key : String) : String :=
  Storage.Disk.join folder (Storage.temporaryName (w.identifiers w.issued) key)

/-- The temporary file that is next has a name that does not exist yet. -/
structure IsClearFor (w : World) (folder key : String) : Prop where
  isIdentifier : IsIdentifier (w.identifiers w.issued)
  isNew : w.disk.isPresent (w.temporaryPath folder key) = false

end World

namespace Storage

variable {folder key name : String} {w : World}

/-- A key is written as a whole, or an error is reported and the disk is as it was. -/
theorem folderStorage_write_cases (h : w.IsClearFor folder key) (data : ByteArray) :
  (∃ fault, (folderStorage folder).write key data w = (.error fault, w.afterFresh))
  ∨ ∃ disk, (folderStorage folder).write key data w = (.ok (), { w.afterFresh with disk })
    ∧ w.disk.Stores (Disk.join folder key) data disk
  := by
  rw [Store.Backend.folderStorage_write_eq]
  obtain ⟨fault, hreplace⟩ | ⟨disk, hreplace, hstores⟩ :=
    Disk.replace_cases (h.isIdentifier.notMem (by decide)) h.isNew data
  · left
    use fault
    rw [hreplace]
    rfl
  · right
    use disk
    rw [hreplace]
    exact ⟨rfl, hstores⟩

/-- The paths of a key without slashes and of its temporary file lead to different entries. -/
theorem target_temporaryPath_ne {disk : Disk} {data : ByteArray} (h : w.IsClearFor folder key)
    (hslash : '/' ∉ key.toList) (hstores : w.disk.Stores (Disk.join folder key) data disk) :
  w.disk.target (w.temporaryPath folder key) ≠ w.disk.target (Disk.join folder key)
  := by
  obtain ⟨location, entries, hopens, hfits, -, -⟩ := hstores.opens hslash
  have hid : '/' ∉ (w.identifiers w.issued).toList := h.isIdentifier.notMem (by decide)
  intro heq
  rw [hfits.target_eq hopens.base] at heq
  obtain ⟨-, -, hname, -⟩ := Disk.entry_of_target_join (hfits.isName.temporaryName hid) heq
  apply temporaryName_ne _ _ hname.symm

namespace Access

/-- Whenever the operations write a key, its temporary file has a name that does not exist yet. -/
def AreClear (folder : String) : List Access → World → Prop
  | [], _ => True
  | a :: accesses, w => (∀ key data, a = .write key data → w.IsClearFor folder key)
    ∧ AreClear folder accesses (a.reply (folderStorage folder) w).2

/-- The operation at the position writes the name, and this is done. -/
def WritesAt (accesses : List Access) (replies : List Reply) (name : String) (i : Nat) : Prop :=
  (∃ data, accesses[i]? = some (.write name data)) ∧ replies[i]? = some .done

/-- The operation at the position deletes the name, and this is done. -/
def DeletesAt (accesses : List Access) (replies : List Reply) (name : String) (i : Nat) : Prop :=
  accesses[i]? = some (.delete name) ∧ replies[i]? = some .done

/-- After an operation a folder has the name that is written and those that it had, except the one
that is deleted. -/
theorem hasEntry_reply {a : Access} (hslash : '/' ∉ a.key.toList)
    (hclear : ∀ key data, a = .write key data → w.IsClearFor folder key) (name : String) :
  let (r, w') := a.reply (folderStorage folder) w
  w'.disk.HasEntry folder name
    ↔ WritesAt [a] [r] name 0 ∨ w.disk.HasEntry folder name ∧ ¬ DeletesAt [a] [r] name 0
  := by
  cases a with
  | read key =>
    change w.disk.HasEntry folder name ↔ _
    simp [WritesAt, DeletesAt]
  | holds key =>
    change w.disk.HasEntry folder name ↔ _
    simp [WritesAt, DeletesAt]
  | write key data =>
    obtain ⟨fault, hwrite⟩ | ⟨disk, hwrite, hstores⟩ :=
      folderStorage_write_cases (hclear key data rfl) data
    · simp only [reply, Store.Backend.bind_apply, hwrite]
      change w.disk.HasEntry folder name ↔ _
      simp [WritesAt, DeletesAt, Reply.ofChange]
    · simp only [reply, Store.Backend.bind_apply, hwrite]
      change disk.HasEntry folder name ↔ _
      rw [hstores.hasEntry_iff hslash]
      simp [WritesAt, DeletesAt, Reply.ofChange, eq_comm]
  | delete key =>
    cases hremove : w.disk.remove (Disk.join folder key) with
    | error fault =>
      simp only [reply, Store.Backend.bind_apply, Store.Backend.folderStorage_delete_eq, hremove]
      change w.disk.HasEntry folder name ↔ _
      simp [WritesAt, DeletesAt, Reply.ofChange]
    | ok disk =>
      simp only [reply, Store.Backend.bind_apply, Store.Backend.folderStorage_delete_eq, hremove]
      change disk.HasEntry folder name ↔ _
      rw [Disk.hasEntry_remove_iff hremove hslash]
      simp [WritesAt, DeletesAt, Reply.ofChange, eq_comm, and_comm]

theorem replies_cons_apply {m : Storage (StateM World)} (a : Access) (accesses : List Access)
    (w : World) :
  replies m (a :: accesses) w
    = let (r, w₁) := a.reply m w
      let (rs, w₂) := replies m accesses w₁
      (r :: rs, w₂)
  := rfl

/-- After any operations a folder has the names that were written and those that it had, except the
ones that were deleted later. -/
theorem hasEntry_replies {accesses : List Access} (hslash : ∀ a ∈ accesses, '/' ∉ a.key.toList)
    (hclear : AreClear folder accesses w) (name : String) :
  let (rs, w') := replies (folderStorage folder) accesses w
  w'.disk.HasEntry folder name
    ↔ (∃ i, WritesAt accesses rs name i ∧ ∀ j, i < j → ¬ DeletesAt accesses rs name j)
      ∨ w.disk.HasEntry folder name ∧ ∀ j, ¬ DeletesAt accesses rs name j
  := by
  induction accesses generalizing w with
  | nil =>
    change w.disk.HasEntry folder name ↔ _
    simp [WritesAt, DeletesAt]
  | cons a accesses ih =>
    obtain ⟨ha, hslash⟩ := List.forall_mem_cons.mp hslash
    obtain ⟨hfirst, hlater⟩ := hclear
    have hstep := hasEntry_reply ha hfirst name
    have hrest := ih hslash hlater
    rw [replies_cons_apply]
    generalize a.reply (folderStorage folder) w = first at hstep hrest ⊢
    obtain ⟨r, w₁⟩ := first
    simp only at hstep hrest ⊢
    generalize replies (folderStorage folder) accesses w₁ = rest at hrest ⊢
    obtain ⟨rs, w₂⟩ := rest
    simp only at hrest ⊢
    rw [hrest, hstep]
    -- the first position is that of the first operation, and the others are those of the rest
    constructor
    · rintro (⟨i, hwrites, hkept⟩ | ⟨hwrites | ⟨hentry, hkept⟩, hnever⟩)
      · left
        refine ⟨i + 1, hwrites, ?_⟩
        rintro (_ | j) hj
        · contradiction
        · apply hkept j (Nat.lt_of_succ_lt_succ hj)
      · left
        refine ⟨0, hwrites, ?_⟩
        rintro (_ | j) hj
        · contradiction
        · apply hnever j
      · right
        use hentry
        rintro (_ | j)
        · exact hkept
        · apply hnever j
    · rintro (⟨_ | i, hwrites, hkept⟩ | ⟨hentry, hnever⟩)
      · right
        exact ⟨.inl hwrites, fun j => hkept (j + 1) (Nat.succ_pos j)⟩
      · left
        exact ⟨i, hwrites, fun j hj => hkept (j + 1) (Nat.succ_lt_succ hj)⟩
      · right
        exact ⟨.inr ⟨hentry, hnever 0⟩, fun j => hnever (j + 1)⟩

/-- Whatever the disk, the key and the data are, a key is written as a whole or an error is reported
and the disk is as it was.  Nothing is left at the path of the temporary file, unless slashes make it
lead where the path of the key leads.  When keys without slashes are written and deleted, the names
in the folder are those that it had and those that were written, except the ones that were deleted
later. -/
theorem writes_whole (folder : String) :
  (∀ w key data, w.IsClearFor folder key →
    let (answer, w') := (folderStorage folder).write key data w
    (match answer with
      | .error _ => w'.disk = w.disk
      | .ok () => w.disk.Stores (Disk.join folder key) data w'.disk
        ∧ w'.disk.read (Disk.join folder key) = .ok data)
    ∧ (w'.disk.isPresent (w.temporaryPath folder key) = false ∨ answer = .ok () ∧ '/' ∈ key.toList
      ∧ w.disk.target (w.temporaryPath folder key) = w.disk.target (Disk.join folder key)))
  ∧ ∀ w accesses name, (∀ a ∈ accesses, '/' ∉ a.key.toList) → AreClear folder accesses w →
    let (rs, w') := replies (folderStorage folder) accesses w
    w'.disk.HasEntry folder name
      ↔ (∃ i, WritesAt accesses rs name i ∧ ∀ j, i < j → ¬ DeletesAt accesses rs name j)
        ∨ w.disk.HasEntry folder name ∧ ∀ j, ¬ DeletesAt accesses rs name j
  := by
  refine ⟨?_, fun w accesses name hslash hclear => hasEntry_replies hslash hclear name⟩
  intro w key data hclear
  obtain ⟨fault, hwrite⟩ | ⟨disk, hwrite, hstores⟩ := folderStorage_write_cases hclear data
  · rw [hwrite]
    exact ⟨rfl, .inl hclear.isNew⟩
  · rw [hwrite]
    refine ⟨⟨hstores, hstores.read_eq⟩, ?_⟩
    by_cases hsame : w.disk.target (w.temporaryPath folder key)
        = w.disk.target (Disk.join folder key)
    · right
      refine ⟨rfl, ?_, hsame⟩
      by_contra hslash
      apply target_temporaryPath_ne hclear hslash hstores hsame
    · left
      apply hstores.isPresent_eq_false hclear.isNew hsame

theorem isClearFor_emptyWorld :
  emptyWorld.IsClearFor "" "key"
  := by
  have hkey : "key" ∈ ["key", "key", "key"] := List.mem_cons_self ..
  refine ⟨⟨0, 0, rfl⟩, ?_⟩
  rw [World.temporaryPath,
    opens_emptyWorld.isPresent_eq (suits_emptyWorld.fits_temporaryName hkey emptyWorld.issued)]
  rfl

/-- In an empty folder a key is written, and when it has also been deleted, it is no name there. -/
theorem writes_whole_emptyWorld :
  emptyWorld.IsClearFor "" "key"
    ∧ AreClear "" [write "key" ByteArray.empty, delete "key"] emptyWorld
    ∧ (∃ w', (folderStorage "").write "key" ByteArray.empty emptyWorld = (.ok (), w')
      ∧ w'.disk.read "key" = .ok ByteArray.empty)
    ∧ ¬ (replies (folderStorage "") [write "key" ByteArray.empty, delete "key"]
      emptyWorld).2.disk.HasEntry "" "key"
  := by
  have hkey : "key" ∈ ["key", "key", "key"] := List.mem_cons_self ..
  have hclear : AreClear "" [write "key" ByteArray.empty, delete "key"] emptyWorld := by
    refine ⟨?_, ?_, trivial⟩
    · rintro _ _ ⟨⟩
      exact isClearFor_emptyWorld
    · rintro _ _ ⟨⟩
  obtain ⟨hwhole, hnames⟩ := writes_whole ""
  refine ⟨isClearFor_emptyWorld, hclear, ?_, ?_⟩
  · have hwrite := hwhole emptyWorld "key" ByteArray.empty isClearFor_emptyWorld
    obtain ⟨w', hreply, -⟩ := reply_write suits_emptyWorld mirrors_emptyWorld hkey ByteArray.empty
    simp only [reply, Store.Backend.bind_apply] at hreply
    rcases hanswer : (folderStorage "").write "key" ByteArray.empty emptyWorld with ⟨_ | _, w''⟩
    · rw [hanswer] at hreply
      cases hreply
    · rw [hanswer] at hwrite
      exact ⟨w'', rfl, hwrite.1.2⟩
  · have hslash : ∀ a ∈ [write "key" ByteArray.empty, delete "key"], '/' ∉ a.key.toList := by
      simp [key]
    have hkeys : ∀ a ∈ [write "key" ByteArray.empty, delete "key"],
        a.key ∈ ["key", "key", "key"] := by
      simp [key]
    have hdeleted := replies_folderStorage suits_emptyWorld mirrors_emptyWorld hkeys 1
    have hentries := hnames emptyWorld _ "key" hslash hclear
    intro hentry
    obtain ⟨i, ⟨⟨data, hi⟩, -⟩, hkept⟩ | ⟨hentry, -⟩ := hentries.mp hentry
    · obtain _ | _ | i := i
      · apply hkept 1 (by decide) ⟨rfl, hdeleted⟩
      · cases hi
      · cases hi
    · apply opens_emptyWorld.hasEntry_iff.mp hentry rfl

end Access

end Storage

end Agenda
