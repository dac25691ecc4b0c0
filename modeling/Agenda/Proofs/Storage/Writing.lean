import Agenda.Proofs.Identifier
import Agenda.Proofs.Storage.Folder

/-!
# All or nothing

The data for a key is written to a temporary file, which then gets the path of the key.  The key
may be any text: empty, with slashes, too long or the path of a folder; and the folder of the
storage may be missing.  When nothing is at the path of the temporary file, replacing the file of
the key either fails and leaves the disk exactly as it was, or the data is put where the path of
the key leads and nothing else has changed.
-/

namespace Agenda.Storage

namespace Disk

variable {d d' : Disk} {folder id key path source name : String} {base location : Location}
  {data : ByteArray}

/-! ### Folders on the way -/

/-- There is a folder at the location. -/
def IsFolder (d : Disk) (location : Location) : Prop :=
  ∃ entries, d.root.get? location = some (.folder entries)

/-- What has something in it is a folder. -/
theorem isFolder_of_get? {more : Location} {found : Node} (hmore : more ≠ [])
    (h : d.root.get? (location ++ more) = some found) :
  d.IsFolder location
  := by
  rw [Node.get?_append] at h
  obtain ⟨node, hnode, hfound⟩ := Option.bind_eq_some_iff.mp h
  obtain ⟨first, rest, rfl⟩ := List.exists_cons_of_ne_nil hmore
  obtain _ | entries := node
  · contradiction
  · exact ⟨entries, hnode⟩

theorem IsFolder.of_append {more : Location} (h : d.IsFolder (location ++ more)) :
  d.IsFolder location
  := by
  obtain rfl | hmore := eq_or_ne more []
  · rw [List.append_nil] at h
    exact h
  · obtain ⟨entries, hentries⟩ := h
    apply isFolder_of_get? hmore hentries

/-- From a folder all names lead to folders. -/
theorem IsFolder.of_follow {start : Location} {names : List String} (h : d.IsFolder start)
    (hfound : d.follow start names = .ok location) :
  d.IsFolder location
  := by
  fun_induction follow d start names with
  | case1 start =>
    obtain rfl := Except.ok.inj hfound
    exact h
  | case2 start names ih => apply ih h hfound
  | case3 start names ih =>
    apply ih _ hfound
    obtain rfl | hne := eq_or_ne start []
    · exact h
    · rw [← List.dropLast_append_getLast hne] at h
      apply h.of_append
  | case4 start name names hdot hdots ih =>
    obtain ⟨node, hlookup, hrest⟩ := bind_eq_ok_iff.mp hfound
    obtain _ | _ | inner := node
    · contradiction
    · contradiction
    · exact ih ⟨inner, (lookup_eq_ok_iff.mp hlookup).2⟩ hrest

/-- What leads on by a name is a folder. -/
theorem isFolder_of_follow_cons {start : Location} {names : List String}
    (hname : name ≠ "." ∧ name ≠ "..") (h : d.follow start (name :: names) = .ok location) :
  d.IsFolder start
  := by
  rw [follow] at h
  · obtain ⟨node, hlookup, hrest⟩ := bind_eq_ok_iff.mp h
    obtain _ | node := node
    · contradiction
    · apply isFolder_of_get? (List.cons_ne_nil name []) (lookup_eq_ok_iff.mp hlookup).2
  · exact hname.1
  · exact hname.2

/-- A path that leads to an entry ends with its name, and its other names lead to the location. -/
theorem entry_of_target {slash : Bool} (h : d.target path = .ok (.entry location name slash)) :
  path ≠ "" ∧ slash = (path.toList.getLast? == some '/') ∧ name ≠ "." ∧ name ≠ ".." ∧ ∃ names,
    pathNames path = names ++ [name]
      ∧ d.follow (if isAbsolute path then [] else d.working) names = .ok location
  := by
  generalize hstart : (if isAbsolute path then [] else d.working) = start
  simp only [target, hstart] at h
  split at h
  · contradiction
  · split at h
    · contradiction
    · next hempty =>
      have hne : path ≠ "" := fun heq => hempty (String.isEmpty_iff.mpr heq)
      split at h
      · obtain ⟨_, -, heq⟩ := map_eq_ok_iff.mp h
        cases heq
      · obtain ⟨_, -, heq⟩ := map_eq_ok_iff.mp h
        cases heq
      · obtain ⟨_, -, heq⟩ := map_eq_ok_iff.mp h
        cases heq
      · next last hdot hdots hlast =>
        obtain ⟨_, hfollow, heq⟩ := map_eq_ok_iff.mp h
        cases heq
        have hnames := List.dropLast_append_getLast? _ hlast
        exact ⟨hne, rfl, hdot, hdots, _, hnames.symm, hfollow⟩

/-- The path of the folder itself is that of a folder. -/
theorem target_join_empty :
  d.target (join folder "") ≠ .ok (.entry location name false)
  := by
  intro h
  obtain ⟨hne, hslash, -⟩ := entry_of_target h
  have hjoin : join folder "" = lead folder := by
    rw [join_eq rfl, String.append_empty]
  rw [hjoin] at hne hslash
  obtain ⟨-, hlead⟩ | ⟨-, front, hlead, -⟩ := lead_cases folder
  · apply hne hlead
  · rw [hlead] at hslash
    simp at hslash

/-- The path of a key leads to an entry of a folder when that of the folder leads to one. -/
theorem isFolder_of_target_join (hbase : d.base folder = .ok base) (hfolder : d.IsFolder base)
    (h : d.target (join folder key) = .ok (.entry location name false)) :
  d.IsFolder location
  := by
  obtain ⟨-, -, -, -, names, hnames, hfollow⟩ := entry_of_target h
  cases habsolute : isAbsolute key with
  | true =>
    have hjoin : join folder key = key := by
      rw [join, habsolute]
      rfl
    have hroot : d.IsFolder ([] ++ base) := hfolder
    rw [hjoin, if_pos habsolute] at hfollow
    apply hroot.of_append.of_follow hfollow
  | false =>
    have hkey : key ≠ "" := by
      rintro rfl
      apply target_join_empty h
    have hne := pathNames_ne_nil hkey habsolute
    rw [pathNames_join habsolute] at hnames
    rw [isAbsolute_join habsolute] at hfollow
    have hfront : names = pathNames folder ++ (pathNames key).dropLast := by
      rw [← List.dropLast_append_of_ne_nil hne, hnames, List.dropLast_concat]
    rw [hfront, follow_append] at hfollow
    obtain ⟨_, hbase', hrest⟩ := bind_eq_ok_iff.mp hfollow
    obtain rfl := Except.ok.inj (hbase.symm.trans hbase')
    apply hfolder.of_follow hrest

/-! ### Temporary paths -/

/-- The path of a temporary file goes on from the folder by a name that begins with the
identifier. -/
theorem pathNames_temporaryName (hid : '/' ∉ id.toList) (key : String) :
  isAbsolute (temporaryName id key) = false ∧ ∃ first rest,
    pathNames (temporaryName id key) = first :: rest ∧ id.toList <+: first.toList
      ∧ first ≠ "." ∧ first ≠ ".."
  := by
  have hstart : '/' ∉ (id ++ "-").toList ∧ id ++ "-" ≠ "" := by
    simp [hid]
  obtain ⟨part, rest, hnames⟩ := exists_pathNames_append hstart.1 hstart.2 key
  constructor
  · rw [temporaryName, isAbsolute_append hstart.2]
    apply isAbsolute_of_notMem hstart.1
  · refine ⟨_, rest, hnames, by simp [String.append_assoc], ?_⟩
    apply ne_dots_of_mem (c := '-')
    · simp
    · decide

/-- When a temporary file is to be in a folder, so is the path of the folder itself. -/
theorem isFolder_base {slash : Bool} (hid : '/' ∉ id.toList) (hfolder : d.IsFolder location)
    (h : d.target (join folder (temporaryName id key)) = .ok (.entry location name slash)) :
  ∃ base, d.base folder = .ok base ∧ d.IsFolder base
  := by
  obtain ⟨hrelative, first, rest, hfirst, -, hdots⟩ := pathNames_temporaryName hid key
  obtain ⟨-, -, -, -, names, hnames, hfollow⟩ := entry_of_target h
  rw [pathNames_join hrelative, hfirst] at hnames
  rw [isAbsolute_join hrelative] at hfollow
  have hfront : names = pathNames folder ++ (first :: rest).dropLast := by
    rw [← List.dropLast_append_cons, hnames, List.dropLast_concat]
  rw [hfront, follow_append] at hfollow
  obtain ⟨base, hbase, hrest⟩ := bind_eq_ok_iff.mp hfollow
  use base, hbase
  cases rest with
  | nil =>
    obtain rfl := Except.ok.inj hrest
    exact hfolder
  | cons second rest => apply isFolder_of_follow_cons hdots hrest

/-! ### Replacing a file -/

/-- The data is written to the source, which then gets the path.  If that fails, the source is
removed. -/
def replace (d : Disk) (source path : String) (data : ByteArray) : Except Fault Unit × Disk :=
  match d.write source data with
  | .error fault => (.error fault, d)
  | .ok written =>
    match written.rename source path with
    | .ok renamed => (.ok (), renamed)
    | .error fault => (.error fault, (written.remove source).toOption.getD written)

/-- To replace a file rewrites the disk, also when it fails. -/
theorem rewrites_replace (d : Disk) (source path : String) (data : ByteArray) :
  d.Rewrites data (d.replace source path data).2
  := by
  rw [replace]
  split
  · apply Rewrites.refl
  · next written hwrite =>
    have hwritten : d.Rewrites data written := rewrites_of_write hwrite
    split
    · next renamed hrename => exact hwritten.trans (rewrites_of_rename hwrite hrename)
    · cases hremove : written.remove source with
      | ok removed => exact hwritten.trans (rewrites_of_remove hremove)
      | error fault => exact hwritten

/-- A new entry that is put into a folder and dropped again leaves the disk as it was. -/
theorem modify_drop_put (hnone : d.root.get? (location ++ [name]) = none) (data : ByteArray) :
  (d.modify location (Bindings.put name (.file data))).modify location (Bindings.drop name) = d
  := by
  have hroot : (d.root.modify (Bindings.put name (.file data)) location).modify
      (Bindings.drop name) location = d.root := by
    rw [Node.modify_modify]
    apply Node.modify_eq_self
    intro entries hentries
    rw [Node.get?_append, hentries] at hnone
    apply Bindings.drop_put_of_get? ((Option.bind_fun_some _).symm.trans hnone)
  rw [modify, modify, hroot]

/-- What is put where there is no folder is not put at all. -/
theorem modify_eq_self {change : Bindings Node → Bindings Node} (h : ¬ d.IsFolder location) :
  d.modify location change = d
  := by
  rw [modify, Node.modify_eq_self]
  intro entries hentries
  apply absurd ⟨entries, hentries⟩ h

/-! ### All or nothing -/

/-- The second disk is the first one with the data where the path leads, in place of the file that
may be there. -/
def Stores (d : Disk) (path : String) (data : ByteArray) (d' : Disk) : Prop :=
  ∃ location name, d.target path = .ok (.entry location name false)
    ∧ name.utf8ByteSize ≤ maxNameSize ∧ d.IsFolder location
    ∧ (∀ inner, d.root.get? (location ++ [name]) ≠ some (.folder inner))
    ∧ d' = d.modify location (Bindings.put name (.file data))

/-- When nothing is at a path, there is no entry to which it leads. -/
theorem get?_of_isPresent_eq_false (h : d.isPresent path = false)
    (htarget : d.target path = .ok (.entry location name false))
    (hsize : name.utf8ByteSize ≤ maxNameSize) :
  d.root.get? (location ++ [name]) = none
  := by
  have hlookup : d.lookup location name = .ok (d.root.get? (location ++ [name])) :=
    lookup_eq_ok_iff.mpr ⟨hsize, rfl⟩
  rw [isPresent, htarget] at h
  simp only [hlookup] at h
  cases hget : d.root.get? (location ++ [name]) with
  | none => rfl
  | some found =>
    rw [hget] at h
    cases found <;> contradiction

/-- To put a file where there is no folder takes away no folder. -/
theorem keepsFolders_put (hfolder : ∀ inner, d.root.get? (location ++ [name]) ≠ some (.folder inner))
    (data : ByteArray) :
  d.root.KeepsFolders (d.modify location (Bindings.put name (.file data))).root
  := by
  apply Node.keepsFolders_modify
  intro entries hentries other inner hinner
  rw [Bindings.get?_put]
  split
  · next heq =>
    apply absurd _ (hfolder inner)
    rw [Node.get?_append, hentries, ← heq, Option.bind_some, Node.get?, Node.entries, hinner]
    rfl
  · exact hinner

/-- What is put in a folder is there. -/
theorem get?_put (h : d.IsFolder location) (name : String) (node : Node) :
  (d.modify location (Bindings.put name node)).root.get? (location ++ [name]) = some node
  := by
  obtain ⟨entries, hentries⟩ := h
  rw [Node.get?_append, modify, Node.get?_modify hentries]
  simp [Node.get?, Node.entries, Bindings.get?_put]

/-- The second disk is the first one with a new file that has the data, at a path where nothing was
before. -/
structure Creates (d : Disk) (source : String) (data : ByteArray) (written : Disk)
    (origin : Location) (oldName : String) : Prop where
  target : d.target source = .ok (.entry origin oldName false)
  size : oldName.utf8ByteSize ≤ maxNameSize
  isFolder : d.IsFolder origin
  isNew : d.root.get? (origin ++ [oldName]) = none
  eq : written = d.modify origin (Bindings.put oldName (.file data))

namespace Creates

variable {written renamed : Disk} {origin : Location} {oldName : String}
  (h : d.Creates source data written origin oldName)

include h

theorem keepsFolders :
  d.root.KeepsFolders written.root
  := by
  rw [h.eq]
  apply keepsFolders_put
  simp [h.isNew]

theorem rewrites :
  d.Rewrites data written
  := by
  rw [h.eq]
  apply rewrites_modify (Node.refiles_put oldName data)

theorem target_written :
  written.target source = .ok (.entry origin oldName false)
  := target_of_keepsFolders h.keepsFolders h.rewrites.working h.target

theorem get?_written :
  written.root.get? (origin ++ [oldName]) = some (.file data)
  := by
  rw [h.eq]
  apply get?_put h.isFolder

/-- Without the new file the disk is as it was. -/
theorem modify_drop :
  written.modify origin (Bindings.drop oldName) = d
  := by
  rw [h.eq]
  apply modify_drop_put h.isNew

theorem remove_eq :
  written.remove source = .ok d
  := by
  have hlookup := lookup_eq_ok_iff.mpr ⟨h.size, h.get?_written⟩
  simp only [remove, h.target_written, hlookup, bind, Except.bind, h.modify_drop]
  rfl

/-- When the new file is renamed, the data is where the path leads. -/
theorem of_rename (hrename : written.rename source path = .ok renamed) :
  ∃ location name, d.target path = .ok (.entry location name false)
    ∧ name.utf8ByteSize ≤ maxNameSize
    ∧ (∀ inner, d.root.get? (location ++ [name]) ≠ some (.folder inner))
    ∧ renamed = d.modify location (Bindings.put name (.file data))
  := by
  obtain ⟨_, _, _, location, name, content, hsource, hcontent, htarget, hsize, hfolder, heq⟩ :=
    rename_cases hrename
  rw [h.target_written] at hsource
  cases hsource
  rw [h.get?_written] at hcontent
  cases hcontent
  rw [h.modify_drop] at heq
  refine ⟨location, name, h.rewrites.target_eq htarget, hsize, ?_, heq⟩
  intro inner hinner
  obtain ⟨inner', hinner'⟩ := h.keepsFolders _ _ hinner
  apply hfolder inner' hinner'

end Creates

/-- What is at no path is neither renamed nor removed, so a file that was not written is not
replaced. -/
theorem replace_of_write_eq_self (hwrite : d.write source data = .ok d)
    (htarget : d.target source = .ok (.entry location name false))
    (hnone : d.root.get? (location ++ [name]) = none) :
  ∃ fault, d.replace source path data = (.error fault, d)
  := by
  rw [replace, hwrite]
  cases hrename : d.rename source path with
  | ok renamed =>
    obtain ⟨_, _, _, _, _, _, hsource, hcontent, -, -, -, -⟩ := rename_cases hrename
    rw [htarget] at hsource
    cases hsource
    rw [hnone] at hcontent
    contradiction
  | error fault =>
    use fault
    cases hremove : d.remove source with
    | ok removed =>
      obtain ⟨_, _, _, hsource, hcontent, -⟩ := remove_cases hremove
      rw [htarget] at hsource
      cases hsource
      rw [hnone] at hcontent
      contradiction
    | error _ =>
      simp only [hrename, hremove]
      rfl

/-- When nothing is at the path of the temporary file, the file of a key is replaced as a whole or
the disk is as it was. -/
theorem replace_cases (hid : '/' ∉ id.toList)
    (hnew : d.isPresent (join folder (temporaryName id key)) = false) (data : ByteArray) :
  (∃ fault, d.replace (join folder (temporaryName id key)) (join folder key) data
    = (.error fault, d))
  ∨ ∃ d', d.replace (join folder (temporaryName id key)) (join folder key) data = (.ok (), d')
    ∧ d.Stores (join folder key) data d'
  := by
  cases hwrite : d.write (join folder (temporaryName id key)) data with
  | error fault =>
    left
    use fault
    rw [replace, hwrite]
  | ok written =>
    obtain ⟨origin, oldName, hsource, hsize, -, hwritten⟩ := write_cases hwrite
    have hnone := get?_of_isPresent_eq_false hnew hsource hsize
    by_cases hfolder : d.IsFolder origin
    · have hcreates : d.Creates _ data written origin oldName :=
        ⟨hsource, hsize, hfolder, hnone, hwritten⟩
      rw [replace, hwrite]
      cases hrename : written.rename (join folder (temporaryName id key)) (join folder key) with
      | ok renamed =>
        right
        refine ⟨renamed, by simp only [hrename], ?_⟩
        obtain ⟨location, name, htarget, hlast, hfile, heq⟩ := hcreates.of_rename hrename
        obtain ⟨base, hbase, hfolder⟩ := isFolder_base hid hfolder hsource
        have hthere := isFolder_of_target_join hbase hfolder htarget
        exact ⟨location, name, htarget, hlast, hthere, hfile, heq⟩
      | error fault =>
        left
        use fault
        simp only [hrename, hcreates.remove_eq]
        rfl
    · -- the path leads to where no folder is, so nothing has been written
      left
      rw [hwritten, modify_eq_self hfolder] at hwrite
      apply replace_of_write_eq_self hwrite hsource hnone

/-! ### Keys that are names -/

/-- A key without slashes whose path leads to an entry is the name of this entry. -/
theorem isName_of_target_join (hslash : '/' ∉ key.toList)
    (h : d.target (join folder key) = .ok (.entry location name false)) :
  IsName key
  := by
  have hne : key ≠ "" := by
    rintro rfl
    apply target_join_empty h
  obtain ⟨-, -, hdot, hdots, names, hnames, -⟩ := entry_of_target h
  rw [pathNames_join (isAbsolute_of_notMem hslash), pathNames_of_notMem hne hslash] at hnames
  obtain ⟨-, hname⟩ := List.append_inj' hnames rfl
  obtain rfl := List.singleton_inj.mp hname
  exact ⟨hne, hslash, hdot, hdots⟩

/-- What is stored under a key without slashes is an entry of the folder. -/
theorem Stores.opens (hslash : '/' ∉ key.toList) (h : d.Stores (join folder key) data d') :
  ∃ location entries, d.Opens folder location entries ∧ Fits folder key
    ∧ (∀ inner, Bindings.get? key entries ≠ some (.folder inner))
    ∧ d' = d.modify location (Bindings.put key (.file data))
  := by
  obtain ⟨location, name, htarget, hsize, ⟨entries, hentries⟩, hfile, heq⟩ := h
  have hkey := isName_of_target_join hslash htarget
  obtain ⟨hfault, hbase, rfl, -⟩ := entry_of_target_join hkey htarget
  have hopens : d.Opens folder location entries := ⟨hbase, hentries⟩
  use location, entries, hopens, ⟨hkey, hsize, hfault⟩
  refine ⟨?_, heq⟩
  intro inner hinner
  apply hfile inner
  rw [hopens.get?_eq, hinner]

end Disk

end Agenda.Storage
