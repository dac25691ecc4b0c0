import Agenda.Proofs.Storage.Writing

/-!
# Replacing a file

The name of a temporary file begins with an identifier.  When no other entry of the folder begins
with it, replacing a file whose key ends with a name either fails and leaves the disk exactly as it
was, or the key is the name of an entry of the folder, which then has the data, and nothing else has
changed.  An identifier that was unused is so afterwards.
-/

namespace Agenda.Storage

/-! ### Temporary names -/

/-- The last name of the key is that of an entry. -/
def EndsInName (key : String) : Prop :=
  IsName key ∨ ∃ front name, IsName name ∧ key = front ++ "/" ++ name

theorem IsName.temporaryName {id key : String} (h : IsName key) (hid : '/' ∉ id.toList) :
  IsName (temporaryName id key)
  := by
  have hdots : Storage.temporaryName id key ≠ "." ∧ Storage.temporaryName id key ≠ ".." := by
    apply ne_dots_of_mem (c := '-')
    · simp [Storage.temporaryName]
    · decide
  refine ⟨?_, ?_, hdots.1, hdots.2⟩
  · simp [Storage.temporaryName]
  · simp [Storage.temporaryName, hid, h.notMem]

theorem size_temporaryName {id key : String} (hid : IsIdentifier id) :
  (temporaryName id key).utf8ByteSize = key.utf8ByteSize + 27
  := by
  rw [temporaryName, String.utf8ByteSize_append, String.utf8ByteSize_append, hid.utf8ByteSize_eq]
  change 26 + 1 + key.utf8ByteSize = key.utf8ByteSize + 27
  omega

/-- A name of 228 bytes leaves room for an identifier. -/
theorem size_temporaryName_le {id key : String} (hid : IsIdentifier id)
    (hkey : key.utf8ByteSize ≤ 228) :
  (temporaryName id key).utf8ByteSize ≤ Disk.maxNameSize
  := by
  rw [size_temporaryName hid]
  change key.utf8ByteSize + 27 ≤ 255
  omega

theorem temporaryName_ne (id key : String) :
  temporaryName id key ≠ key
  := by
  intro heq
  have hlength := congrArg String.length heq
  rw [temporaryName, String.length_append, String.length_append] at hlength
  change id.length + 1 + key.length = key.length at hlength
  omega

namespace Disk

variable {d : Disk} {folder id key source path : String} {location : Location}
  {entries : Bindings Node} {data : ByteArray}

/-- A name that leaves room for an identifier fits after one. -/
theorem HasRoom.fits_temporaryName (h : HasRoom folder) (hid : IsIdentifier id) (hkey : IsName key)
    (hnull : '\x00' ∉ key.toList) (hsize : key.utf8ByteSize ≤ 228) :
  Fits folder (temporaryName id key)
  := by
  apply h.fits
  · apply hkey.temporaryName
    apply hid.notMem
    decide
  · have hid' : '\x00' ∉ id.toList := hid.notMem (by decide)
    simp [temporaryName, hid', hnull]
  · apply size_temporaryName_le hid hsize

/-- A temporary name fits whichever identifier it has. -/
theorem Fits.of_isIdentifier {id' : String} (h : Fits folder (temporaryName id key))
    (hid : IsIdentifier id) (hid' : IsIdentifier id') (hkey : IsName key) :
  Fits folder (temporaryName id' key)
  := by
  obtain ⟨hlead, hnull, hpath⟩ := (pathFault?_join_eq_none_iff h.isName.notMem).mp h.path
  have hsize := h.size
  rw [size_temporaryName hid] at hsize hpath
  have hname : IsName (temporaryName id' key) := hkey.temporaryName (hid'.notMem (by decide))
  have hnull' : '\x00' ∉ id'.toList := hid'.notMem (by decide)
  refine ⟨hname, by rwa [size_temporaryName hid'], ?_⟩
  rw [pathFault?_join_eq_none_iff hname.notMem, size_temporaryName hid']
  refine ⟨hlead, ?_, hpath⟩
  simp only [temporaryName, String.toList_append, List.mem_append, not_or] at hnull ⊢
  exact ⟨⟨hnull', hnull.1.2⟩, hnull.2⟩

/-- No entry of the folder, except that of the key, has a name that begins with the identifier. -/
def IsUnused (d : Disk) (folder key id : String) : Prop :=
  ∀ location entries name, d.Opens folder location entries →
    Bindings.get? name entries ≠ none → name ≠ key → ¬ id.toList <+: name.toList

/-- A name that begins with an unused identifier leads nowhere. -/
theorem IsUnused.get?_eq_none (h : d.IsUnused folder key id) (hbase : d.base folder = .ok location)
    {name : String} (hkey : name ≠ key) (hname : id.toList <+: name.toList) :
  d.root.get? (location ++ [name]) = none
  := by
  rw [Node.get?_append]
  cases hroot : d.root.get? location with
  | none => rfl
  | some found =>
    obtain _ | entries := found
    · rfl
    · by_contra hne
      apply h location entries name ⟨hbase, hroot⟩ _ hkey hname
      intro hnone
      apply hne
      rw [Option.bind_some, Node.get?, Node.entries, hnone]
      rfl

/-- There is no temporary file under an unused identifier. -/
theorem IsUnused.get?_temporaryName (h : d.IsUnused folder key id)
    (hopens : d.Opens folder location entries) :
  Bindings.get? (temporaryName id key) entries = none
  := by
  by_contra hne
  apply h location entries _ hopens hne (temporaryName_ne id key)
  simp [temporaryName, String.append_assoc]

/-- Nothing is found behind a name that begins with an unused identifier. -/
theorem IsUnused.follow_eq_error (h : d.IsUnused folder key id) {name : String}
    (hdots : name ≠ "." ∧ name ≠ "..") (hkey : name ≠ key) (hname : id.toList <+: name.toList)
    (rest : List String) :
  ∃ fault, d.follow (if isAbsolute folder then [] else d.working)
    (pathNames folder ++ name :: rest) = .error fault
  := by
  rw [follow_append]
  change ∃ fault, (d.base folder >>= (d.follow · (name :: rest))) = .error fault
  cases hbase : d.base folder with
  | error fault => exact ⟨fault, rfl⟩
  | ok location =>
    change ∃ fault, d.follow location (name :: rest) = .error fault
    rw [follow, lookup]
    · split
      · exact ⟨_, rfl⟩
      · rw [h.get?_eq_none hbase hkey hname]
        exact ⟨_, rfl⟩
    · exact hdots.1
    · exact hdots.2

/-- The temporary file of a key that goes through folders cannot be written. -/
theorem IsUnused.write_eq_error {front name : String}
    (h : d.IsUnused folder (front ++ "/" ++ name) id) (hid : '/' ∉ id.toList) (hname : IsName name)
    (data : ByteArray) :
  ∃ fault, d.write (join folder (temporaryName id (front ++ "/" ++ name))) data = .error fault
  := by
  obtain ⟨hrelative, -⟩ := pathNames_temporaryName hid (front ++ "/" ++ name)
  obtain ⟨-, first, rest, hfirst, hstart, hdots⟩ := pathNames_temporaryName hid front
  have htemporary : temporaryName id (front ++ "/" ++ name)
      = temporaryName id front ++ "/" ++ name := by
    simp only [temporaryName, String.append_assoc]
  have hkey : first ≠ front ++ "/" ++ name := by
    intro heq
    have hmem : first ∈ pathNames (temporaryName id front) := by
      rw [hfirst]
      apply List.mem_cons_self
    apply notMem_of_mem_pathNames hmem
    rw [heq]
    simp
  obtain ⟨fault, hfollow⟩ := h.follow_eq_error hdots hkey hstart rest
  cases hwrite : d.write (join folder (temporaryName id (front ++ "/" ++ name))) data with
  | error fault => exact ⟨fault, rfl⟩
  | ok written =>
    obtain ⟨location, _, htarget, -, -, -⟩ := write_cases hwrite
    obtain ⟨-, -, -, -, names, hnames, hlocation⟩ := entry_of_target htarget
    rw [pathNames_join hrelative, htemporary, pathNames_append_slash, hfirst,
      pathNames_of_isName hname, ← List.append_assoc] at hnames
    obtain ⟨rfl, -⟩ := List.append_inj' hnames rfl
    rw [isAbsolute_join hrelative, hfollow] at hlocation
    contradiction

/-- Nothing is at the path of the temporary file of a name. -/
theorem IsUnused.isPresent_eq_false (h : d.IsUnused folder key id) (hid : '/' ∉ id.toList)
    (hkey : IsName key) :
  d.isPresent (join folder (temporaryName id key)) = false
  := by
  have hstart : id.toList <+: (temporaryName id key).toList := by
    simp [temporaryName, String.append_assoc]
  cases hfault : pathFault? (join folder (temporaryName id key)) with
  | some fault => rw [isPresent, target_of_pathFault? hfault]
  | none =>
    rw [isPresent, target_join (hkey.temporaryName hid) hfault]
    cases hbase : d.base folder with
    | error fault => rfl
    | ok location =>
      have hnone := h.get?_eq_none hbase (temporaryName_ne id key) hstart
      simp only [Except.map, lookup, hnone]
      by_cases hsize : maxNameSize < (temporaryName id key).utf8ByteSize
      · rw [if_pos hsize]
      · rw [if_neg hsize]

/-! ### Replacing a file -/

/-- Under a name that is new in the folder a file is replaced unless a folder is in its place,
and then the disk is as before. -/
theorem Opens.replace_eq (h : d.Opens folder location entries) {source : String}
    (hsource : Fits folder source) (hname : Fits folder name) (hne : source ≠ name)
    (hnone : Bindings.get? source entries = none) (data : ByteArray) :
  d.replace (join folder source) (join folder name) data = match Bindings.get? name entries with
    | some (.folder _) => (.error (.os .isADirectory), d)
    | _ => (.ok (), d.modify location (Bindings.put name (.file data)))
  := by
  have hwrite : d.write (join folder source) data
      = .ok (d.modify location (Bindings.put source (.file data))) := by
    rw [h.write_eq hsource, hnone]
  have hfolder : ∀ inner, Bindings.get? source entries ≠ some (.folder inner) := by
    simp [hnone]
  have hwritten := h.put hfolder data
  have hfound : Bindings.get? source (Bindings.put source (.file data) entries)
      = some (.file data) := by
    rw [Bindings.get?_put, if_pos rfl]
  have hother : Bindings.get? name (Bindings.put source (.file data) entries)
      = Bindings.get? name entries := by
    rw [Bindings.get?_put, if_neg hne.symm]
  have hback : (d.modify location (Bindings.put source (.file data))).modify location
      (Bindings.drop source) = d := by
    apply modify_drop_put
    rw [h.get?_eq, hnone]
  rw [replace, hwrite]
  simp only [hwritten.rename_eq hname hsource hfound, hother, hwritten.remove_eq hsource, hfound,
    hback]
  obtain _ | _ | _ := Bindings.get? name entries <;> rfl

/-- When a name is written in a folder, it fits, and the path of the folder leads somewhere. -/
theorem fits_of_write {name : String} {written : Disk} (hname : IsName name)
    (h : d.write (join folder name) data = .ok written) :
  Fits folder name ∧ ∃ location, d.base folder = .ok location
  := by
  obtain ⟨location, _, htarget, hsize, -, -⟩ := write_cases h
  obtain ⟨hfault, hbase, rfl, -⟩ := entry_of_target_join hname htarget
  exact ⟨⟨hname, hsize, hfault⟩, location, hbase⟩

/-- A file that can be written, even in place of another one, replaces the file of a name unless a
folder is there. -/
theorem Opens.replace_of_write (h : d.Opens folder location entries) (hsource : Fits folder source)
    (hname : Fits folder name) (hne : source ≠ name)
    (hfolder : ∀ inner, Bindings.get? name entries ≠ some (.folder inner))
    {written : Disk} (hwrite : d.write (join folder source) data = .ok written) :
  ∃ d' entries', d.replace (join folder source) (join folder name) data = (.ok (), d')
    ∧ d'.Opens folder location entries' ∧ Bindings.get? name entries' = some (.file data)
  := by
  have hold : ∀ inner, Bindings.get? source entries ≠ some (.folder inner) := by
    intro inner hinner
    rw [h.write_eq hsource, hinner] at hwrite
    contradiction
  have hwritten : written = d.modify location (Bindings.put source (.file data)) := by
    rw [h.write_eq hsource] at hwrite
    split at hwrite
    · contradiction
    · exact (Except.ok.inj hwrite).symm
  have hopens := h.put hold data
  have hfound : Bindings.get? source (Bindings.put source (.file data) entries)
      = some (.file data) := by
    rw [Bindings.get?_put, if_pos rfl]
  have hother : Bindings.get? name (Bindings.put source (.file data) entries)
      = Bindings.get? name entries := by
    rw [Bindings.get?_put, if_neg hne.symm]
  have hfile : ∀ inner, Bindings.get? source (Bindings.put source (.file data) entries)
      ≠ some (Node.folder inner) := by
    simp [hfound]
  have hput : ∀ inner, Bindings.get? name (Bindings.drop source
      (Bindings.put source (.file data) entries)) ≠ some (.folder inner) := by
    rw [Bindings.get?_drop, if_neg hne.symm, hother]
    exact hfolder
  refine ⟨_, _, ?_, (hopens.drop hfile).put hput data, ?_⟩
  · rw [replace, hwrite, hwritten]
    rcases hthere : Bindings.get? name entries with _ | _ | inner
    · simp only [hopens.rename_eq hname hsource hfound, hother, hthere]
    · simp only [hopens.rename_eq hname hsource hfound, hother, hthere]
    · apply absurd hthere (hfolder inner)
  · rw [Bindings.get?_put, if_pos rfl]

/-- A file is replaced in a folder that is there or not at all. -/
theorem IsUnused.replace_cases (h : d.IsUnused folder key id) (hid : '/' ∉ id.toList)
    (hkey : EndsInName key) (data : ByteArray) :
  (∃ fault, d.replace (join folder (temporaryName id key)) (join folder key) data
    = (.error fault, d))
  ∨ ∃ location entries, d.Opens folder location entries ∧ Fits folder key
    ∧ (∀ inner, Bindings.get? key entries ≠ some (.folder inner))
    ∧ d.replace (join folder (temporaryName id key)) (join folder key) data
      = (.ok (), d.modify location (Bindings.put key (.file data)))
  := by
  obtain hname | ⟨front, name, hname, rfl⟩ := hkey
  · obtain hfault | ⟨d', hreplace, hstores⟩ :=
      Disk.replace_cases hid (h.isPresent_eq_false hid hname) data
    · left
      exact hfault
    · right
      obtain ⟨location, entries, hopens, hfits, hfile, rfl⟩ := hstores.opens hname.notMem
      exact ⟨location, entries, hopens, hfits, hfile, hreplace⟩
  · left
    obtain ⟨fault, hwrite⟩ := h.write_eq_error hid hname data
    use fault
    rw [replace, hwrite]

/-- To put the data that a file has already changes nothing. -/
theorem Opens.put_eq_self (h : d.Opens folder location entries)
    (hfound : Bindings.get? key entries = some (.file data)) :
  d.modify location (Bindings.put key (.file data)) = d
  := by
  rw [Disk.modify, Node.modify_eq_self]
  intro found hroot
  rw [h.root] at hroot
  obtain rfl := Node.folder.inj (Option.some.inj hroot)
  apply Bindings.put_of_get? hfound

/-- When a file has been replaced, it is replaced again by the same data, which changes nothing. -/
theorem IsUnused.replace_again (h : d.IsUnused folder key id) (hid : IsIdentifier id)
    (hkey : EndsInName key) {d' : Disk}
    (hreplace : d.replace (join folder (temporaryName id key)) (join folder key) data = (.ok (), d'))
    {id' : String} (h' : d'.IsUnused folder key id') (hid' : IsIdentifier id') :
  d'.replace (join folder (temporaryName id' key)) (join folder key) data = (.ok (), d')
  := by
  have hslash : '/' ∉ id.toList := hid.notMem (by decide)
  obtain ⟨fault, heq⟩ | ⟨location, entries, hopens, hfits, hfolder, heq⟩ :=
    h.replace_cases hslash hkey data
  · rw [hreplace] at heq
    cases heq
  · rw [hreplace] at heq
    obtain rfl := (Prod.mk.inj heq).2
    have hsource : Fits folder (temporaryName id key) := by
      rw [replace] at hreplace
      split at hreplace
      · cases hreplace
      · next written hwrite =>
        exact (fits_of_write (hfits.isName.temporaryName hslash) hwrite).1
    have hopens' := hopens.put hfolder data
    have hfound : Bindings.get? key (Bindings.put key (.file data) entries) = some (.file data) := by
      rw [Bindings.get?_put, if_pos rfl]
    have hagain := hopens'.replace_eq (hsource.of_isIdentifier hid hid' hfits.isName) hfits
      (temporaryName_ne id' key) (h'.get?_temporaryName hopens') data
    rw [hfound] at hagain
    exact hagain.trans (congrArg (Prod.mk _) (hopens'.put_eq_self hfound))

/-- An identifier remains unused when the file of the key is replaced. -/
theorem IsUnused.put (h : d.IsUnused folder key id) (hopens : d.Opens folder location entries)
    (hfolder : ∀ inner, Bindings.get? key entries ≠ some (.folder inner)) (data : ByteArray) :
  (d.modify location (Bindings.put key (.file data))).IsUnused folder key id
  := by
  have hopens' := hopens.put hfolder data
  intro location' entries' name hfound hname hkey
  obtain ⟨rfl, rfl⟩ := hopens'.unique hfound
  rw [Bindings.get?_put, if_neg hkey] at hname
  apply h location entries name hopens hname hkey

end Disk

end Agenda.Storage
