import Agenda.Proofs.Config.Usable

/-!
# What loading leaves in the file

When settings are loaded, the file of settings is afterwards what would be written for them, also
when it was missing or lacked some of them.  If the text that is written for settings is read as
these settings, a second loading gives them again and changes nothing.  When the file is not
accepted, or cannot be written anew, the disk stays as it is.

`Config.load_settles` says this of every folder that is there, with other entries and any content of
the file, and that nothing but the content decides what is loaded as long as the folder can be
written to.
-/

namespace Agenda

open Storage (Disk temporaryName)
open Storage.Disk (Fits)
open Store.Backend (folderStorage)

/-- The folder is there.  What it has under the key of the settings is a file with the content, or
nothing.  The identifiers to come are made as identifiers are. -/
structure World.HasSettings (w : World) (folder : String) (content : Option ByteArray) : Prop where
  entries : ∃ location entries, w.disk.Opens folder location entries
    ∧ Bindings.get? Config.fileKey entries = content.map .file
  isIdentifier : ∀ k, w.issued ≤ k → IsIdentifier (w.identifiers k)

/-- The next temporary file can be written, whatever is to be in it. -/
def World.IsWritable (w : World) (folder : String) : Prop :=
  ∀ data, ∃ written, w.disk.write
    (Disk.join folder (temporaryName (w.identifiers w.issued) Config.fileKey)) data = .ok written

namespace Config

variable {w w' : World} {folder : String} {content : Option ByteArray} {data : ByteArray}
  {text : String} {c : Config}

/-! ### What the bytes describe -/

/-- The settings that the bytes of the file describe, or the defaults without a file. -/
def described : Option ByteArray → Except Config.Error Config
  | none => .ok {}
  | some data => (ofBytes data).map Prod.snd

/-- The defaults are read from what is written for them. -/
theorem read?_write_defaults :
  read? ({} : Config).write = some {}
  := by
  rw [read?, write, String.toList_ofList]
  simp only [Yaml.writeEntry, Yaml.writeText, Yaml.writtenStyle, Yaml.preferredStyle,
    String.contains_char_eq]
  decide +kernel

theorem ofBytes_write (hread : read? c.write = some c) (hproblem : c.problem? = none) :
  ofBytes c.write.toUTF8 = .ok (c.write, c)
  := ofBytes_eq_ok_iff.mpr ⟨rfl, hread, hproblem⟩

theorem ofBytes_write_defaults :
  ofBytes ({} : Config).write.toUTF8 = .ok (({} : Config).write, {})
  := ofBytes_write read?_write_defaults (by decide)

/-! ### Writing the file -/

/-- The settings are in the file, or nothing has changed and the folder cannot be written to. -/
theorem store_cases (h : w.HasSettings folder content) (c : Config) :
  (∃ fault, store (folderStorage folder) c w = (.error fault, w.afterFresh)
    ∧ ¬ w.IsWritable folder)
  ∨ ∃ w', store (folderStorage folder) c w = (.ok (), w')
    ∧ w'.HasSettings folder (some c.write.toUTF8) ∧ Fits folder fileKey
  := by
  have hid := h.isIdentifier w.issued (Nat.le_refl _)
  have hname := isName_fileKey.temporaryName (hid.notMem (by decide))
  rw [store, Store.Backend.folderStorage_write_eq]
  cases hwrite : w.disk.write
      (Disk.join folder (temporaryName (w.identifiers w.issued) fileKey)) c.write.toUTF8 with
  | error fault =>
    left
    refine ⟨fault, ?_, ?_⟩
    · rw [Disk.replace, hwrite]
      rfl
    · intro hwritable
      obtain ⟨written, hok⟩ := hwritable c.write.toUTF8
      rw [hwrite] at hok
      contradiction
  | ok written =>
    right
    obtain ⟨location, entries, hopens, hentry⟩ := h.entries
    have hsource := (Disk.fits_of_write hname hwrite).1
    have hfits : Fits folder fileKey := hsource.of_append isName_fileKey
    have hfolder : ∀ inner, Bindings.get? fileKey entries ≠ some (.folder inner) := by
      rw [hentry]
      cases content <;> simp
    obtain ⟨disk, entries', hreplace, hopens', hentry'⟩ := hopens.replace_of_write hsource hfits
      (Storage.temporaryName_ne _ _) hfolder hwrite
    rw [hreplace]
    refine ⟨_, rfl, ⟨⟨location, entries', hopens', hentry'⟩, ?_⟩, hfits⟩
    intro k hk
    apply h.isIdentifier k (Nat.le_of_succ_le hk)

/-! ### Reading the file -/

theorem read_of_fits (h : w.HasSettings folder (some data)) (hfits : Fits folder fileKey) :
  (folderStorage folder).read fileKey w = (.ok data, w)
  := by
  obtain ⟨location, entries, hopens, hentry⟩ := h.entries
  change (w.disk.read (Disk.join folder fileKey), w) = _
  rw [hopens.read_eq hfits, hentry]
  rfl

/-- The file is there just when it has content. -/
theorem holds_of_fits (h : w.HasSettings folder content) (hfits : Fits folder fileKey) :
  (folderStorage folder).holds fileKey w = (content.isSome, w)
  := by
  obtain ⟨location, entries, hopens, hentry⟩ := h.entries
  change (w.disk.isPresent (Disk.join folder fileKey), w) = _
  rw [hopens.isPresent_eq hfits, hentry, Option.isSome_map]

theorem fetch_of_fits (h : w.HasSettings folder (some data)) (hfits : Fits folder fileKey) :
  fetch (folderStorage folder) w = (.ok data, w)
  := by
  simp only [fetch, Store.Backend.bind_apply, holds_of_fits h hfits, Option.isSome_some, if_true,
    read_of_fits h hfits]

/-- Where the path of the file is too long or has a null character, nothing is found. -/
theorem holds_of_not_fits (h : ¬ Fits folder fileKey) :
  (folderStorage folder).holds fileKey w = (false, w)
  := by
  have hfault : ∃ fault, Disk.pathFault? (Disk.join folder fileKey) = some fault := by
    apply Option.ne_none_iff_exists'.mp
    intro hnone
    apply h ⟨isName_fileKey, by decide, hnone⟩
  obtain ⟨fault, hfault⟩ := hfault
  change (w.disk.isPresent (Disk.join folder fileKey), w) = _
  rw [Disk.isPresent, Disk.target_of_pathFault? hfault]

/-- When the folder can be written to, the path of the file is in order. -/
theorem fits_of_isWritable (h : w.HasSettings folder content) (hwritable : w.IsWritable folder) :
  Fits folder fileKey
  := by
  have hid := h.isIdentifier w.issued (Nat.le_refl _)
  have hname := isName_fileKey.temporaryName (hid.notMem (by decide))
  obtain ⟨written, hwrite⟩ := hwritable ByteArray.empty
  exact (Disk.fits_of_write hname hwrite).1.of_append isName_fileKey

/-- A file that is not found is written with the defaults and read. -/
theorem fetch_of_not_holds (h : w.HasSettings folder content)
    (hholds : (folderStorage folder).holds fileKey w = (false, w)) :
  (∃ fault w', fetch (folderStorage folder) w = (.error fault, w') ∧ w'.disk = w.disk
    ∧ ¬ w.IsWritable folder)
  ∨ ∃ w', fetch (folderStorage folder) w = (.ok ({} : Config).write.toUTF8, w')
    ∧ w'.HasSettings folder (some ({} : Config).write.toUTF8) ∧ Fits folder fileKey
  := by
  simp only [fetch, Store.Backend.bind_apply, hholds, Bool.false_eq_true, if_false]
  obtain ⟨fault, hstore, hnot⟩ | ⟨w', hstore, hsettings, hfits⟩ := store_cases h {}
  · left
    exact ⟨fault, w.afterFresh, by rw [hstore]; rfl, rfl, hnot⟩
  · right
    refine ⟨w', ?_, hsettings, hfits⟩
    rw [hstore]
    exact read_of_fits hsettings hfits

/-- The file is fetched as it is, or it has been written with the defaults; or it is missing or
cannot be found, and nothing has changed. -/
theorem fetch_cases (h : w.HasSettings folder content) :
  (∃ fault w', fetch (folderStorage folder) w = (.error fault, w') ∧ w'.disk = w.disk
    ∧ ¬ w.IsWritable folder)
  ∨ ∃ data w', fetch (folderStorage folder) w = (.ok data, w') ∧ w'.HasSettings folder (some data)
    ∧ Fits folder fileKey
    ∧ (content = some data ∧ w' = w ∨ content = none ∧ data = ({} : Config).write.toUTF8)
  := by
  by_cases hfits : Fits folder fileKey
  · cases content with
    | some data =>
      right
      exact ⟨data, w, fetch_of_fits h hfits, h, hfits, .inl ⟨rfl, rfl⟩⟩
    | none =>
      obtain hfault | ⟨w', hfetch, hsettings, -⟩ := fetch_of_not_holds h (holds_of_fits h hfits)
      · left
        exact hfault
      · right
        exact ⟨_, w', hfetch, hsettings, hfits, .inr ⟨rfl, rfl⟩⟩
  · left
    obtain hfault | ⟨w', -, -, hfits'⟩ := fetch_of_not_holds h (holds_of_not_fits hfits)
    · exact hfault
    · apply absurd hfits' hfits

/-! ### Loading -/

/-- A file that is there is loaded as it is described, or the disk stays as it is. -/
theorem loadFrom_some (h : w.HasSettings folder (some data)) (hfits : Fits folder fileKey) :
  (∃ e w', loadFrom (folderStorage folder) w = (.error e, w') ∧ w'.disk = w.disk
    ∧ (w.IsWritable folder → described (some data) = .error e))
  ∨ ∃ c w', loadFrom (folderStorage folder) w = (.ok c, w') ∧ described (some data) = .ok c
    ∧ c.problem? = none ∧ w'.HasSettings folder (some c.write.toUTF8)
  := by
  simp only [loadFrom, Store.Backend.bind_apply, fetch_of_fits h hfits, described]
  cases haccepted : ofBytes data with
  | error e =>
    left
    exact ⟨e, w, rfl, rfl, fun _ => rfl⟩
  | ok result =>
    obtain ⟨text, c⟩ := result
    obtain ⟨rfl, -, hproblem⟩ := ofBytes_eq_ok_iff.mp haccepted
    dsimp only
    by_cases htext : text = c.write
    · right
      subst htext
      simp only [if_true]
      exact ⟨c, w, rfl, rfl, hproblem, h⟩
    · simp only [if_neg htext, Store.Backend.bind_apply]
      obtain ⟨fault, hstore, hnot⟩ | ⟨w', hstore, hsettings, -⟩ := store_cases h c
      · left
        rw [hstore]
        exact ⟨_, _, rfl, rfl, fun hwritable => absurd hwritable hnot⟩
      · right
        rw [hstore]
        exact ⟨c, w', rfl, rfl, hproblem, hsettings⟩

/-- What the file describes is loaded and is then what the file has, or the disk stays as it is. -/
theorem loadFrom_cases (h : w.HasSettings folder content) :
  (∃ e w', loadFrom (folderStorage folder) w = (.error e, w') ∧ w'.disk = w.disk
    ∧ (w.IsWritable folder → described content = .error e))
  ∨ ∃ c w', loadFrom (folderStorage folder) w = (.ok c, w') ∧ described content = .ok c
    ∧ c.problem? = none ∧ w'.HasSettings folder (some c.write.toUTF8) ∧ Fits folder fileKey
  := by
  obtain ⟨fault, w₁, hfetch, hdisk, hnot⟩ | ⟨data, w₁, hfetch, hsettings, hfits, hcontent⟩ :=
    fetch_cases h
  · left
    simp only [loadFrom, Store.Backend.bind_apply, hfetch]
    exact ⟨_, w₁, rfl, hdisk, fun hwritable => absurd hwritable hnot⟩
  · obtain ⟨rfl, rfl⟩ | ⟨rfl, rfl⟩ := hcontent
    · obtain hfault | ⟨c, w', hload, hdescribed, hproblem, hsettings'⟩ := loadFrom_some h hfits
      · left
        exact hfault
      · right
        exact ⟨c, w', hload, hdescribed, hproblem, hsettings', hfits⟩
    · right
      simp only [loadFrom, Store.Backend.bind_apply, hfetch, ofBytes_write_defaults, if_true]
      exact ⟨{}, w₁, rfl, rfl, by decide, hsettings, hfits⟩

/-- Settings that are read from what is written for them are loaded from a file that has it. -/
theorem loadFrom_write (h : w.HasSettings folder (some c.write.toUTF8))
    (hfits : Fits folder fileKey) (hread : read? c.write = some c) (hproblem : c.problem? = none) :
  loadFrom (folderStorage folder) w = (.ok c, w)
  := by
  simp only [loadFrom, Store.Backend.bind_apply, fetch_of_fits h hfits,
    ofBytes_write hread hproblem, if_true]
  rfl

/-- When settings are loaded, they are what the file describes, or the defaults without a file.
They have no problem, and the file has what is written for them.  If this is read as the same
settings, a second loading gives them again and changes nothing.  When no settings are loaded, the
disk stays as it is.  In a folder that can be written to, settings are loaded whenever the content
of the file is accepted. -/
theorem load_settles (h : w.HasSettings folder content) :
  (∀ c w', load World.system.files World.system.fresh folder w = (.ok c, w') →
    described content = .ok c ∧ c.problem? = none ∧ w'.HasSettings folder (some c.write.toUTF8)
      ∧ (read? c.write = some c →
        load World.system.files World.system.fresh folder w' = (.ok c, w')))
  ∧ (∀ e w', load World.system.files World.system.fresh folder w = (.error e, w') →
    w'.disk = w.disk)
  ∧ (w.IsWritable folder →
    (load World.system.files World.system.fresh folder w).1 = described content)
  := by
  obtain ⟨location, entries, hopens, -⟩ := h.entries
  cases hfault : Disk.pathFault? folder with
  | some fault =>
    rw [load_of_pathFault? hfault]
    refine ⟨nofun, ?_, ?_⟩
    · intro e w' hload
      rw [(Prod.mk.inj hload).2]
    · intro hwritable
      rw [(fits_of_isWritable h hwritable).pathFault?_eq_none] at hfault
      contradiction
  | none =>
    rw [load_eq hopens hfault]
    obtain ⟨e, w₁, hload, hdisk, hdescribed⟩ |
      ⟨c, w₁, hload, hdescribed, hproblem, hsettings, hfits⟩ := loadFrom_cases h
    · rw [hload]
      refine ⟨nofun, ?_, fun hwritable => (hdescribed hwritable).symm⟩
      intro e' w' heq
      rw [← (Prod.mk.inj heq).2, hdisk]
    · rw [hload]
      refine ⟨?_, nofun, fun _ => hdescribed.symm⟩
      intro c' w' heq
      cases heq
      refine ⟨hdescribed, hproblem, hsettings, ?_⟩
      intro hread
      obtain ⟨location', entries', hopens', -⟩ := hsettings.entries
      rw [load_eq hopens' hfault]
      apply loadFrom_write hsettings hfits hread hproblem

/-- A file that has only two of the settings. -/
def partialSettings : String :=
  "default_category: Inbox\nactivity_days: 14\n"

/-- The settings of that file with the defaults of the others. -/
def inboxSettings : Config :=
  { defaultCategory := "Inbox", activityDays := 14 }

theorem read?_write_inboxSettings :
  read? inboxSettings.write = some inboxSettings
  := by
  rw [read?, write, String.toList_ofList]
  simp only [Yaml.writeEntry, Yaml.writeText, Yaml.writtenStyle, Yaml.preferredStyle,
    String.contains_char_eq]
  decide +kernel

/-- The file is written anew with the other settings, and a second loading changes nothing. -/
theorem load_settles_partialSettings :
  (Store.settingsWorld partialSettings).HasSettings "" (some partialSettings.toUTF8)
    ∧ ∃ w', load World.system.files World.system.fresh "" (Store.settingsWorld partialSettings)
        = (.ok inboxSettings, w')
      ∧ w'.HasSettings "" (some inboxSettings.write.toUTF8)
      ∧ load World.system.files World.system.fresh "" w' = (.ok inboxSettings, w')
  := by
  have hsettings : (Store.settingsWorld partialSettings).HasSettings ""
      (some partialSettings.toUTF8) :=
    ⟨⟨_, _, Store.opens_settingsWorld partialSettings, rfl⟩, fun k _ => ⟨k, 0, rfl⟩⟩
  have hread : read? partialSettings = some inboxSettings := by
    decide +kernel
  obtain ⟨w', hload⟩ := Store.load_settingsWorld hread (by decide)
  obtain ⟨-, -, hafter, hagain⟩ := (load_settles hsettings).1 inboxSettings w' hload
  exact ⟨hsettings, w', hload, hafter, hagain read?_write_inboxSettings⟩

end Config

end Agenda
