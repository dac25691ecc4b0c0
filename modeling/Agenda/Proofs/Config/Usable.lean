import Agenda.Config.File
import Agenda.Proofs.Store.Atomicity
import Agenda.Proofs.Store.Lookup
import Agenda.Theme

/-!
# Whether accepted settings can be used

Settings are accepted when the key of the list is a plain name.  In a folder that has no entry
but the file of settings, the list under such a key starts empty, and every task that is added is
found again, provided that the system admits the name of the temporary file, in which an
identifier and a hyphen precede the name of the list.  The check of the settings does not see to
this: with a key that contains a null character or leaves no room for the identifier, no list is
ever written.
-/

namespace Agenda

open Storage (Disk IsName temporaryName)
open Storage.Disk (Fits)
open Store.Backend (folderStorage)

/-! ### Folders with the settings only -/

theorem Config.isName_fileKey :
  IsName Config.fileKey
  := ⟨by decide, by decide, by decide, by decide⟩

/-- The folder has no entry but the file of settings, which may be missing, and the identifiers
to come are made as identifiers are. -/
structure World.IsBare (w : World) (folder : String) : Prop where
  entries : ∃ location entries, w.disk.Opens folder location entries
    ∧ ∀ name, Bindings.get? name entries ≠ none → name = Config.fileKey
  isIdentifier : ∀ k, w.issued ≤ k → IsIdentifier (w.identifiers k)

namespace World.IsBare

variable {w w' : World} {folder : String}

theorem of_continues (h : w.IsBare folder) (hw : w.Continues w') (hdisk : w'.disk = w.disk) :
  w'.IsBare folder
  := by
  constructor
  · rw [hdisk]
    exact h.entries
  · intro k hk
    rw [hw.identifiers]
    apply h.isIdentifier k (Nat.le_trans hw.issued hk)

/-- The name of the file of settings is too short to begin with an identifier. -/
theorem isFreshFor (h : w.IsBare folder) (key : String) :
  w.IsFreshFor folder key
  := by
  refine ⟨h.isIdentifier, ?_⟩
  intro k hk location entries name hopens hname _ hbegins
  obtain ⟨location', entries', hopens', honly⟩ := h.entries
  obtain ⟨rfl, rfl⟩ := hopens'.unique hopens
  obtain rfl := honly name hname
  have hlength := hbegins.length_le
  rw [(h.isIdentifier k hk).length_toList] at hlength
  contradiction

/-- After settings are written, there are at most these. -/
theorem write (h : w.IsBare folder) (data : ByteArray) :
  ((folderStorage folder).write Config.fileKey data w).2.IsBare folder
  := by
  have hissued : ∀ k, w.afterFresh.issued ≤ k → IsIdentifier (w.afterFresh.identifiers k) :=
    fun k hk => h.isIdentifier k (Nat.le_of_succ_le hk)
  have hfresh := h.isFreshFor Config.fileKey
  have hid := hfresh.isIdentifier w.issued (Nat.le_refl _)
  obtain ⟨location, entries, hopens, honly⟩ := h.entries
  rw [Store.Backend.folderStorage_write_eq]
  obtain ⟨fault, hreplace⟩ | ⟨location', entries', hopens', -, hfolder, hreplace⟩ :=
    (hfresh.isUnused w.issued (Nat.le_refl _)).replace_cases (hid.notMem (by decide))
      (.inl Config.isName_fileKey) data
  · rw [hreplace]
    exact ⟨⟨location, entries, hopens, honly⟩, hissued⟩
  · obtain ⟨rfl, rfl⟩ := hopens.unique hopens'
    rw [hreplace]
    refine ⟨⟨location, _, hopens.put hfolder data, ?_⟩, hissued⟩
    intro name hname
    rw [Bindings.get?_put] at hname
    split at hname
    · assumption
    · apply honly name hname

/-- After the bytes of the file of settings are fetched, there is at most this file. -/
theorem fetch (h : w.IsBare folder) :
  (Config.fetch (folderStorage folder) w).2.IsBare folder
  := by
  have hholds : (folderStorage folder).holds Config.fileKey w
      = (w.disk.isPresent (Disk.join folder Config.fileKey), w) := rfl
  simp only [Config.fetch, Config.store, Store.Backend.bind_apply, hholds]
  split
  · exact h
  · have hwritten := h.write ({} : Config).write.toUTF8
    rcases hwrite : (folderStorage folder).write Config.fileKey ({} : Config).write.toUTF8 w
      with ⟨_ | _, w'⟩
    · rw [Store.Backend.bind_apply, hwrite]
      rw [hwrite] at hwritten
      exact hwritten
    · rw [Store.Backend.bind_apply, hwrite]
      rw [hwrite] at hwritten
      exact hwritten

end World.IsBare

/-! ### Accepted settings -/

namespace Config

variable {w w' : World} {folder : String} {c : Config}

/-- What is accepted is a text that is read as settings without a problem. -/
theorem ofBytes_eq_ok_iff {data : ByteArray} {text : String} :
  ofBytes data = .ok (text, c)
    ↔ data = text.toUTF8 ∧ read? text = some c ∧ c.problem? = none
  := by
  rw [ofBytes]
  constructor
  · intro h
    split at h
    · cases h
    · next found hfound =>
      split at h
      · cases h
      · next hread =>
        split at h
        · cases h
        · next hproblem =>
          obtain ⟨rfl, rfl⟩ := Prod.mk.inj (Except.ok.inj h)
          refine ⟨?_, hread, hproblem⟩
          rw [String.fromUTF8?] at hfound
          split at hfound
          · obtain rfl := Option.some.inj hfound
            rfl
          · contradiction
  · rintro ⟨rfl, hread, hproblem⟩
    have htext : String.fromUTF8? text.toUTF8 = some text := dif_pos text.isValidUTF8
    simp only [htext, hread, hproblem]
    rfl

/-- The key of accepted settings has no slash. -/
theorem notMem_key (h : c.problem? = none) :
  '/' ∉ c.storeOptions.key.toList
  := by
  have hplain : isPlainName (Text.trim c.storageKey) = true := by
    by_contra hnot
    simp only [problem?, Bool.eq_false_of_not_eq_true hnot, Bool.not_false, if_true] at h
    split at h <;> apply absurd h (Option.some_ne_none _)
  rw [isPlainName, Bool.and_eq_true, Bool.not_eq_true', List.any_eq_false] at hplain
  intro hslash
  apply hplain.1 '/' hslash
  decide

/-- Settings that are loaded in a folder with nothing else are accepted and leave nothing else
there. -/
theorem loadFrom_spec (hw : w.IsBare folder)
    (hload : loadFrom (folderStorage folder) w = (.ok c, w')) :
  c.problem? = none ∧ w'.IsBare folder
  := by
  have hfetched := hw.fetch
  rcases hfetch : fetch (folderStorage folder) w with ⟨fault | data, w₁⟩
  · simp only [loadFrom, Store.Backend.bind_apply, hfetch] at hload
    cases hload
  · rw [hfetch] at hfetched
    simp only [loadFrom, Store.Backend.bind_apply, hfetch] at hload
    cases haccepted : ofBytes data with
    | error e =>
      rw [haccepted] at hload
      cases hload
    | ok result =>
      have hproblem := (ofBytes_eq_ok_iff.mp haccepted).2.2
      rw [haccepted] at hload
      simp only at hload
      split at hload
      · obtain ⟨hok, rfl⟩ := Prod.mk.inj hload
        obtain rfl := Except.ok.inj hok
        exact ⟨hproblem, hfetched⟩
      · have hstored := hfetched.write result.2.write.toUTF8
        simp only [store, Store.Backend.bind_apply] at hload
        rcases hwrite : (folderStorage folder).write fileKey result.2.write.toUTF8 w₁
          with ⟨fault | _, w₂⟩
        · rw [hwrite] at hload
          cases hload
        · rw [hwrite] at hload hstored
          obtain ⟨hok, rfl⟩ := Prod.mk.inj hload
          obtain rfl := Except.ok.inj hok
          exact ⟨hproblem, hstored⟩

/-- The folder is there already. -/
theorem makeFolders_eq {location : Storage.Location} {entries : Bindings Storage.Node}
    (hopens : w.disk.Opens folder location entries) (hfault : Disk.pathFault? folder = none) :
  World.system.files.makeFolders folder w = (.ok (), w)
  := by
  have hmade := hopens.makeFolders_eq hfault
  change World.onDisk (Disk.attempt (·.makeFolders folder)) w = _
  simp only [World.onDisk, Disk.attempt, hmade]

/-- In a folder that is there, settings are loaded from its storage. -/
theorem load_eq {location : Storage.Location} {entries : Bindings Storage.Node}
    (hopens : w.disk.Opens folder location entries) (hfault : Disk.pathFault? folder = none) :
  load World.system.files World.system.fresh folder w = loadFrom (folderStorage folder) w
  := by
  rw [load, Store.Backend.bind_apply, makeFolders_eq hopens hfault]
  rfl

theorem load_of_pathFault? {fault : Storage.Fault} (hfault : Disk.pathFault? folder = some fault) :
  load World.system.files World.system.fresh folder w = (.error (.folder folder fault), w)
  := by
  have hfailed : World.system.files.makeFolders folder w = (.error fault, w) := by
    change World.onDisk (Disk.attempt (·.makeFolders folder)) w = _
    simp only [World.onDisk, Disk.attempt, Disk.makeFolders, hfault]
  rw [load, Store.Backend.bind_apply, hfailed]
  rfl

theorem load_spec (hw : w.IsBare folder)
    (hload : load World.system.files World.system.fresh folder w = (.ok c, w')) :
  Disk.pathFault? folder = none ∧ c.problem? = none ∧ w'.IsBare folder
  := by
  obtain ⟨location, entries, hopens, -⟩ := hw.entries
  cases hfault : Disk.pathFault? folder with
  | some fault =>
    rw [load_of_pathFault? hfault] at hload
    cases hload
  | none =>
    rw [load_eq hopens hfault] at hload
    exact ⟨rfl, loadFrom_spec hw hload⟩

end Config

/-! ### Lists that can be written -/

namespace Store

variable {w w' : World} {folder id : String} {o : Options} {s : Store}

/-- The key has no null character and leaves room for an identifier before the name of the list,
both in a name and in a path. -/
structure Options.IsStorable (o : Options) (folder : String) : Prop where
  notMem : '\x00' ∉ o.key.toList
  size : o.key.utf8ByteSize ≤ 223
  path : (Disk.lead folder).utf8ByteSize + (o.key.utf8ByteSize + 32) ≤ Disk.maxPathSize

theorem size_temporaryName_listKey (hid : IsIdentifier id) (o : Options) :
  (temporaryName id o.listKey).utf8ByteSize = o.key.utf8ByteSize + 32
  := by
  rw [Storage.size_temporaryName hid, Options.listKey, String.utf8ByteSize_append]
  rfl

/-- The temporary file of the list fits into the folder just when the key can be stored. -/
theorem fits_iff_isStorable (hfolder : Disk.pathFault? folder = none) (hid : IsIdentifier id)
    (hkey : '/' ∉ o.key.toList) :
  Fits folder (temporaryName id o.listKey) ↔ o.IsStorable folder
  := by
  have hname : IsName (temporaryName id o.listKey) :=
    (isName_listKey hkey).temporaryName (hid.notMem (by decide))
  have hsize := size_temporaryName_listKey hid o
  have hlead : '\x00' ∉ (Disk.lead folder).toList := by
    intro hnull
    have hmem := (Disk.lead_le folder).1 _ hnull
    exact (Disk.pathFault?_eq_none_iff.mp hfolder).1 (by simpa using hmem)
  have hnull : '\x00' ∉ (temporaryName id o.listKey).toList ↔ '\x00' ∉ o.key.toList := by
    have hid' : '\x00' ∉ id.toList := hid.notMem (by decide)
    simp [temporaryName, Options.listKey, hid']
  have hpath := @Disk.pathFault?_join_eq_none_iff folder _ hname.notMem
  rw [hnull, hsize] at hpath
  constructor
  · intro hfits
    have hshort := hfits.size
    obtain ⟨-, hnone, hlong⟩ := hpath.mp hfits.path
    rw [hsize] at hshort
    exact ⟨hnone, Nat.le_of_add_le_add_right hshort, hlong⟩
  · intro h
    refine ⟨hname, ?_, hpath.mpr ⟨hlead, h.notMem, h.path⟩⟩
    rw [hsize]
    exact Nat.add_le_add_right h.size 32

/-- Both the name of a list and that of its temporary file end with the letter n. -/
theorem listKey_ne_of_getLast? (o : Options) (id : String) {name : String}
    (h : name.toList.getLast? ≠ some 'n') :
  o.listKey ≠ name ∧ temporaryName id o.listKey ≠ name
  := by
  have hlast : ∀ front : String, (front ++ o.listKey).toList.getLast? = some 'n' := by
    intro front
    rw [Options.listKey, ← String.append_assoc, String.toList_append, List.getLast?_append]
    rfl
  constructor
  · rintro rfl
    apply h
    rw [← hlast "", String.empty_append]
  · rintro rfl
    apply h (hlast (id ++ "-"))

/-- In a folder with the settings only, a list whose key can be stored is written. -/
theorem save_isBare (hw : w.IsBare folder) (hfolder : Disk.pathFault? folder = none)
    (hkey : '/' ∉ s.options.key.toList) (h : s.options.IsStorable folder) :
  ∃ w', s.save (folderStorage folder) w = (.ok (), w')
    ∧ load (folderStorage folder) s.options w' = (.ok s, w')
  := by
  have hid := hw.isIdentifier w.issued (Nat.le_refl _)
  have hfresh := hw.isFreshFor s.options.listKey
  obtain ⟨hlist, htemporary⟩ := listKey_ne_of_getLast? s.options (w.identifiers w.issued)
    (show Config.fileKey.toList.getLast? ≠ some 'n' by decide)
  obtain ⟨location, entries, hopens, honly⟩ := hw.entries
  have hfits := (fits_iff_isStorable hfolder hid hkey).mpr h
  have hnone : ∀ name, name ≠ Config.fileKey → Bindings.get? name entries = none := by
    intro name hname
    by_contra hsome
    apply hname (honly name hsome)
  have hreplace := hopens.replace_eq hfits (hfits.of_append (isName_listKey hkey))
    (Storage.temporaryName_ne _ _) (hnone _ htemporary) (Task.encode s.tasks)
  rw [hnone s.options.listKey hlist] at hreplace
  obtain ⟨fault, hsave⟩ | ⟨w', hsave, hload, -⟩ := save_cases hfresh
  · rw [save_eq, hreplace] at hsave
    have hresult := congrArg Prod.fst hsave
    contradiction
  · exact ⟨w', hsave, hload⟩

/-- A list whose key cannot be stored is not written. -/
theorem save_of_not_isStorable (hid : IsIdentifier (w.identifiers w.issued))
    (hfolder : Disk.pathFault? folder = none) (hkey : '/' ∉ s.options.key.toList)
    (h : ¬ s.options.IsStorable folder) :
  ∃ fault, s.save (folderStorage folder) w = (.error fault, w.afterFresh)
  := by
  have hname : IsName (temporaryName (w.identifiers w.issued) s.options.listKey) :=
    (isName_listKey hkey).temporaryName (hid.notMem (by decide))
  rw [save_eq, Disk.replace]
  cases hwrite : w.disk.write
      (Disk.join folder (temporaryName (w.identifiers w.issued) s.options.listKey))
      (Task.encode s.tasks) with
  | error fault => exact ⟨fault, rfl⟩
  | ok written =>
    have hfits := (Disk.fits_of_write hname hwrite).1
    apply absurd ((fits_iff_isStorable hfolder hid hkey).mp hfits) h

/-! ### Accepted settings in use -/

/-- The store opens with an empty list in the folder.  Whatever task with a title that is not
blank is added, it becomes the list of the store, and this is what the store has when it is opened
again. -/
structure Options.IsUsable (o : Options) (folder : String) (w : World) : Prop where
  folders : World.system.files.makeFolders folder w = (.ok (), w)
  load : Store.load (folderStorage folder) o w = (.ok ⟨[], o⟩, w)
  add : ∀ draft : Draft, Text.trim draft.title ≠ "" → ∃ t w',
    Store.add World.system.toSupply (folderStorage folder) ⟨[], o⟩ draft w
      = ((.ok t, ⟨[t], o⟩), w')
    ∧ t.title = Text.trim draft.title
    ∧ Store.load (folderStorage folder) o w' = (.ok ⟨[t], o⟩, w')

/-- The name is that of an entry of the folder itself, other than the settings and the theme. -/
structure IsSeparate (folder name : String) : Prop where
  isName : IsName name
  isAbsolute : Disk.isAbsolute (Disk.join folder name) = Disk.isAbsolute folder
  pathNames : Disk.pathNames (Disk.join folder name) = Disk.pathNames folder ++ [name]
  ne_settings : name ≠ Config.fileKey
  ne_theme : name ≠ Theme.storageKey

theorem isSeparate_of_isName {name : String} (h : IsName name) (hsettings : name ≠ Config.fileKey)
    (htheme : name ≠ Theme.storageKey) :
  IsSeparate folder name
  := by
  have hrelative := Disk.isAbsolute_of_notMem h.notMem
  refine ⟨h, Disk.isAbsolute_join hrelative, ?_, hsettings, htheme⟩
  rw [Disk.pathNames_join hrelative, Disk.pathNames_of_isName h]

/-- A list that was never written is empty. -/
theorem load_isBare (hw : w.IsBare folder) (hfits : Fits folder o.listKey)
    (hkey : o.listKey ≠ Config.fileKey) :
  load (folderStorage folder) o w = (.ok ⟨[], o⟩, w)
  := by
  obtain ⟨location, entries, hopens, honly⟩ := hw.entries
  have hnone : Bindings.get? o.listKey entries = none := by
    by_contra hsome
    apply hkey (honly _ hsome)
  have hread := hopens.read_eq hfits
  rw [hnone] at hread
  simp only [load_folder_eq, hread]
  rfl

theorem isUsable_of_isStorable (hw : w.IsBare folder) (hfolder : Disk.pathFault? folder = none)
    (hkey : '/' ∉ o.key.toList) (h : o.IsStorable folder) :
  o.IsUsable folder w
  where
  folders := by
    obtain ⟨location, entries, hopens, -⟩ := hw.entries
    apply Config.makeFolders_eq hopens hfolder
  load := by
    have hid := hw.isIdentifier w.issued (Nat.le_refl _)
    have hfits := (fits_iff_isStorable hfolder hid hkey).mpr h
    apply load_isBare hw (hfits.of_append (isName_listKey hkey))
    exact (listKey_ne_of_getLast? o "" (by decide)).1
  add draft htitle := by
    have hborn : w.afterBirth.IsBare folder := hw.of_continues w.continues_afterBirth rfl
    obtain ⟨t, hcreate, ht, -⟩ := create_of_ne draft htitle o.defaultCategory w.birth []
    obtain ⟨w', hsave, hload⟩ := save_isBare (s := ⟨[t], o⟩) hborn hfolder hkey h
    use t, w'
    refine ⟨?_, ht, hload⟩
    rw [applied_inFolder (applies_add_inFolder folder ⟨[], o⟩ draft w) hcreate, hsave]

/-- Nothing can be added to a list whose key cannot be stored. -/
theorem add_of_not_isStorable (hw : w.IsBare folder) (hfolder : Disk.pathFault? folder = none)
    (hkey : '/' ∉ o.key.toList) (h : ¬ o.IsStorable folder) (draft : Draft)
    (htitle : Text.trim draft.title ≠ "") :
  ∃ fault changed w', add World.system.toSupply (folderStorage folder) ⟨[], o⟩ draft w
    = ((.error (.storage fault), changed), w') ∧ w'.disk = w.disk
  := by
  have hborn : w.afterBirth.IsBare folder := hw.of_continues w.continues_afterBirth rfl
  obtain ⟨t, hcreate, -⟩ := create_of_ne draft htitle o.defaultCategory w.birth []
  obtain ⟨fault, hsave⟩ := save_of_not_isStorable (s := ⟨[t], o⟩)
    (hborn.isIdentifier _ (Nat.le_refl _)) hfolder hkey h
  use fault, ⟨[t], o⟩, w.afterBirth.afterFresh
  refine ⟨?_, rfl⟩
  rw [applied_inFolder (applies_add_inFolder folder ⟨[], o⟩ draft w) hcreate, hsave]

theorem not_isUsable (hw : w.IsBare folder) (hfolder : Disk.pathFault? folder = none)
    (hkey : '/' ∉ o.key.toList) (h : ¬ o.IsStorable folder) :
  ¬ o.IsUsable folder w
  := by
  intro husable
  have htitle : Text.trim "Call" ≠ "" := by
    decide
  obtain ⟨t, w₁, hadded, -⟩ := husable.add ⟨"Call", none, none⟩ htitle
  obtain ⟨fault, changed, w₂, hfailed, -⟩ :=
    add_of_not_isStorable hw hfolder hkey h ⟨"Call", none, none⟩ htitle
  rw [hfailed] at hadded
  cases hadded

/-- Settings that are accepted in a folder with nothing else can be used when the key leaves room
for an identifier; when it does not, whatever is added is not written.  The list and its temporary
file are in the folder itself and are neither the settings nor the theme. -/
theorem usable_of_load {c : Config} (hw : w.IsBare folder)
    (hload : Config.load World.system.files World.system.fresh folder w = (.ok c, w')) :
  (c.storeOptions.IsStorable folder → c.storeOptions.IsUsable folder w')
  ∧ (¬ c.storeOptions.IsStorable folder → ∀ draft : Draft, Text.trim draft.title ≠ "" →
    ∃ fault changed w'',
      add World.system.toSupply (folderStorage folder) ⟨[], c.storeOptions⟩ draft w'
        = ((.error (.storage fault), changed), w'') ∧ w''.disk = w'.disk)
  ∧ ∀ id, IsIdentifier id → IsSeparate folder c.storeOptions.listKey
    ∧ IsSeparate folder (temporaryName id c.storeOptions.listKey)
  := by
  obtain ⟨hfolder, hproblem, hbare⟩ := Config.load_spec hw hload
  have hkey := Config.notMem_key hproblem
  refine ⟨isUsable_of_isStorable hbare hfolder hkey, ?_, ?_⟩
  · intro h draft htitle
    apply add_of_not_isStorable hbare hfolder hkey h draft htitle
  · intro id hid
    have hname := isName_listKey hkey
    obtain ⟨hsettings, hsettings'⟩ := listKey_ne_of_getLast? c.storeOptions id
      (show Config.fileKey.toList.getLast? ≠ some 'n' by decide)
    obtain ⟨htheme, htheme'⟩ := listKey_ne_of_getLast? c.storeOptions id
      (show Theme.storageKey.toList.getLast? ≠ some 'n' by decide)
    exact ⟨isSeparate_of_isName hname hsettings htheme,
      isSeparate_of_isName (hname.temporaryName (hid.notMem (by decide))) hsettings' htheme'⟩

/-! ### Examples -/

/-- A world in whose working folder there is a file of settings with the text. -/
def settingsWorld (text : String) : World :=
  { stillWorld with
    disk := ⟨.folder [(Config.fileKey, .file text.toUTF8)], []⟩
    identifiers := fun k => Identifier.make k 0 }

theorem opens_settingsWorld (text : String) :
  (settingsWorld text).disk.Opens "" [] [(Config.fileKey, .file text.toUTF8)]
  := ⟨rfl, rfl⟩

theorem isBare_settingsWorld (text : String) :
  (settingsWorld text).IsBare ""
  := by
  refine ⟨⟨_, _, opens_settingsWorld text, ?_⟩, fun k _ => ⟨k, 0, rfl⟩⟩
  intro name hname
  by_contra hne
  simp [Bindings.get?, Ne.symm hne] at hname

/-- Whatever text the file has, its settings are loaded when they are accepted. -/
theorem load_settingsWorld {text : String} {c : Config} (hread : Config.read? text = some c)
    (hproblem : c.problem? = none) :
  ∃ w', Config.load World.system.files World.system.fresh "" (settingsWorld text) = (.ok c, w')
  := by
  have hroom : Disk.HasRoom "" := ⟨by decide, by decide⟩
  have hid : IsIdentifier ((settingsWorld text).identifiers (settingsWorld text).issued) :=
    ⟨0, 0, rfl⟩
  have hfits := hroom.fits Config.isName_fileKey (by decide) (by decide)
  have hopens := opens_settingsWorld text
  have hholds : (folderStorage "").holds Config.fileKey (settingsWorld text)
      = (true, settingsWorld text) := by
    change ((settingsWorld text).disk.isPresent (Disk.join "" Config.fileKey), settingsWorld text)
      = _
    rw [hopens.isPresent_eq hfits]
    rfl
  have hfetch : Config.fetch (folderStorage "") (settingsWorld text)
      = (.ok text.toUTF8, settingsWorld text) := by
    simp only [Config.fetch, Backend.bind_apply, hholds, if_true]
    change ((settingsWorld text).disk.read (Disk.join "" Config.fileKey), settingsWorld text) = _
    rw [hopens.read_eq hfits]
    rfl
  have hbytes : Config.ofBytes text.toUTF8 = .ok (text, c) :=
    Config.ofBytes_eq_ok_iff.mpr ⟨rfl, hread, hproblem⟩
  have hstore : ∃ w', Config.store (folderStorage "") c (settingsWorld text) = (.ok (), w') := by
    have hreplace := hopens.replace_eq
      (hroom.fits_temporaryName hid Config.isName_fileKey (by decide) (by decide)) hfits
      (Storage.temporaryName_ne _ _) (if_neg (Storage.temporaryName_ne _ _).symm) c.write.toUTF8
    simp only [Config.store, Backend.folderStorage_write_eq, hreplace]
    exact ⟨_, rfl⟩
  obtain ⟨w', hstore⟩ := hstore
  have hload : Config.load World.system.files World.system.fresh "" (settingsWorld text)
      = if text = c.write then (.ok c, settingsWorld text) else (.ok c, w') := by
    rw [Config.load_eq hopens (hfits.pathFault?_eq_none)]
    simp only [Config.loadFrom, Backend.bind_apply, hfetch, hbytes]
    split
    · rfl
    · rw [Backend.bind_apply, hstore]
      rfl
  rw [hload]
  split <;> exact ⟨_, rfl⟩

/-- A plain key can be used: a call that is added to the list is what is found. -/
theorem usable_of_load_plainKey :
  (settingsWorld "storage_key: k\n").IsBare ""
    ∧ ∃ c w', Config.load World.system.files World.system.fresh ""
        (settingsWorld "storage_key: k\n") = (.ok c, w')
      ∧ c.storeOptions.key = "k" ∧ c.storeOptions.IsUsable "" w'
  := by
  have hbare := isBare_settingsWorld "storage_key: k\n"
  have hread : Config.read? "storage_key: k\n" = some { storageKey := "k" } := by
    decide +kernel
  obtain ⟨w', hload⟩ := load_settingsWorld hread (by decide)
  have hkey : ({ storageKey := "k" } : Config).storeOptions.key = "k" := by
    decide
  refine ⟨hbare, _, w', hload, hkey, ?_⟩
  apply (usable_of_load hbare hload).1
  constructor
  · rw [hkey]
    decide
  · rw [hkey]
    decide
  · rw [hkey]
    decide

/-- The letter k, as often as told. -/
def repeatedKey (count : Nat) : String :=
  String.ofList (List.replicate count 'k')

theorem trim_repeatedKey (count : Nat) :
  Text.trim (repeatedKey count) = repeatedKey count
  := by
  apply Text.trim_of_forall_not_isBlank
  intro c hc
  rw [repeatedKey, String.toList_ofList] at hc
  obtain rfl := List.eq_of_mem_replicate hc
  decide

theorem utf8ByteSize_repeatedKey (count : Nat) :
  (repeatedKey count).utf8ByteSize = count
  := by
  induction count with
  | zero => rfl
  | succ count ih =>
    rw [repeatedKey] at ih ⊢
    rw [List.replicate_succ', String.ofList_append, String.utf8ByteSize_append, ih]
    rfl

/-- However long it is, the key is accepted. -/
theorem problem?_repeatedKey (count : Nat) :
  ({ storageKey := repeatedKey (count + 1) } : Config).problem? = none
  := by
  have hplain : Config.isPlainName (repeatedKey (count + 1)) = true := by
    simp [Config.isPlainName, repeatedKey, List.replicate_succ]
  have hempty : (repeatedKey (count + 1)).isEmpty = false := by
    simp [repeatedKey, List.replicate_succ]
  have hcategory : (Text.trim "Uncategorized").isEmpty = false := by
    decide
  simp only [Config.problem?, trim_repeatedKey, hplain, hempty, hcategory]
  rfl

/-- Settings whose key has 224 bytes. -/
def longKeySettings : String :=
  String.ofList ("storage_key: ".toList ++ List.replicate 224 'k' ++ ['\n'])

/-- Settings whose key leaves no room for an identifier are accepted, and yet they cannot be
used. -/
theorem not_usable_longKey :
  (settingsWorld longKeySettings).IsBare ""
    ∧ ∃ c w', Config.load World.system.files World.system.fresh "" (settingsWorld longKeySettings)
        = (.ok c, w')
      ∧ c.storeOptions.key = repeatedKey 224 ∧ ¬ c.storeOptions.IsUsable "" w'
  := by
  have hread : Config.read? longKeySettings = some { storageKey := repeatedKey 224 } := by
    have hchars : longKeySettings.toList
        = "storage_key: ".toList ++ List.replicate 224 'k' ++ ['\n'] := String.toList_ofList
    rw [Config.read?, hchars]
    decide +kernel
  have hbare := isBare_settingsWorld longKeySettings
  obtain ⟨w', hload⟩ := load_settingsWorld hread (problem?_repeatedKey 223)
  have hkey : ({ storageKey := repeatedKey 224 } : Config).storeOptions.key = repeatedKey 224 :=
    trim_repeatedKey 224
  refine ⟨hbare, _, w', hload, hkey, ?_⟩
  obtain ⟨hfolder, hproblem, hbare'⟩ := Config.load_spec hbare hload
  have hnot : ¬ ({ storageKey := repeatedKey 224 } : Config).storeOptions.IsStorable "" := by
    intro h
    have hsize := h.size
    rw [hkey, utf8ByteSize_repeatedKey] at hsize
    omega
  apply not_isUsable hbare' hfolder (Config.notMem_key hproblem) hnot

end Store

end Agenda
