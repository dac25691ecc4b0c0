import Agenda.Proofs.Storage.Disk
import Agenda.Proofs.Storage.Path

/-!
# The files of a folder

What the operations on a disk do to the entries of one folder.  `Disk.Opens` says which entries
a folder has, given its path.  The path of a name within it leads to the entry of that name, and
a change of the entries leaves the folder where it is.  So every operation on the files of a
folder is an operation on its entries.
-/

namespace Agenda.Storage

/-! ### Nodes -/

namespace Node

variable {n n' : Node} {location : Location} {change : Bindings Node → Bindings Node}

theorem get?_append (n : Node) (front back : Location) :
  n.get? (front ++ back) = (n.get? front).bind (·.get? back)
  := by
  induction front generalizing n with
  | nil => rfl
  | cons name front ih =>
    rw [List.cons_append, get?, get?, Option.bind_assoc]
    apply congrArg
    funext child
    apply ih

/-- A change matters only at the entries that it is made to. -/
theorem modify_congr {change' : Bindings Node → Bindings Node}
    (h : ∀ entries, n.get? location = some (.folder entries) → change entries = change' entries) :
  n.modify change location = n.modify change' location
  := by
  induction location generalizing n with
  | nil =>
    cases n with
    | file data => rfl
    | folder entries => rw [modify, modify, h entries rfl]
  | cons name location ih =>
    cases n with
    | file data => rfl
    | folder entries =>
      rw [modify, modify]
      split
      · next child hchild =>
        rw [ih]
        intro inner hinner
        apply h inner
        rw [get?, Node.entries, hchild]
        exact hinner
      · rfl

theorem modify_modify (n : Node) (location : Location)
    (first second : Bindings Node → Bindings Node) :
  (n.modify first location).modify second location = n.modify (second ∘ first) location
  := by
  induction location generalizing n with
  | nil => cases n <;> rfl
  | cons name location ih =>
    cases n with
    | file data => rfl
    | folder entries =>
      cases hchild : Bindings.get? name entries with
      | none => simp only [modify, hchild]
      | some child =>
        simp only [modify, hchild, Bindings.get?_put, if_true, Bindings.put_put, ih]

theorem modify_id (n : Node) (location : Location) :
  n.modify id location = n
  := by
  induction location generalizing n with
  | nil => cases n <;> rfl
  | cons name location ih =>
    cases n with
    | file data => rfl
    | folder entries =>
      rw [modify]
      split
      · next child hchild => rw [ih, Bindings.put_of_get? hchild]
      · rfl

/-- Nothing is changed when the entries stay as they are. -/
theorem modify_eq_self
    (h : ∀ entries, n.get? location = some (.folder entries) → change entries = entries) :
  n.modify change location = n
  := (modify_congr h).trans (modify_id n location)

theorem get?_modify {entries : Bindings Node} (h : n.get? location = some (.folder entries)) :
  (n.modify change location).get? location = some (.folder (change entries))
  := by
  induction location generalizing n with
  | nil =>
    obtain rfl := Option.some.inj h
    rfl
  | cons name location ih =>
    cases n with
    | file data => contradiction
    | folder outer =>
      obtain ⟨child, hchild, hin⟩ := Option.bind_eq_some_iff.mp h
      rw [Node.entries] at hchild
      simp only [modify, hchild, get?, Node.entries, Bindings.get?_put, if_true, Option.bind_some]
      apply ih hin

/-- Every folder of the first node is a folder of the second one. -/
def KeepsFolders (n n' : Node) : Prop :=
  ∀ location entries, n.get? location = some (.folder entries) →
    ∃ entries', n'.get? location = some (.folder entries')

theorem KeepsFolders.refl (n : Node) :
  n.KeepsFolders n
  := fun _ entries h => ⟨entries, h⟩

/-- A folder is kept with its own folders when these are kept. -/
theorem keepsFolders_folder {entries entries' : Bindings Node}
    (h : ∀ name inner, Bindings.get? name entries = some (.folder inner) →
      ∃ child, Bindings.get? name entries' = some child ∧ (Node.folder inner).KeepsFolders child) :
  (Node.folder entries).KeepsFolders (.folder entries')
  := by
  rintro (_ | ⟨name, location⟩) found hfound
  · exact ⟨entries', rfl⟩
  · obtain ⟨child, hchild, hin⟩ := Option.bind_eq_some_iff.mp hfound
    obtain data | inner := child
    · have hfile := eq_file_of_get? hin
      contradiction
    · obtain ⟨child', hchild', hkeeps⟩ := h name inner hchild
      obtain ⟨found', hfound'⟩ := hkeeps location found hin
      exact ⟨found', Option.bind_eq_some_iff.mpr ⟨child', hchild', hfound'⟩⟩

/-- A change that takes away no folder leaves all folders of a node where they are. -/
theorem keepsFolders_modify
    (h : ∀ entries, n.get? location = some (.folder entries) → ∀ name inner,
      Bindings.get? name entries = some (.folder inner) →
        Bindings.get? name (change entries) = some (.folder inner)) :
  n.KeepsFolders (n.modify change location)
  := by
  induction location generalizing n with
  | nil =>
    cases n with
    | file data => apply KeepsFolders.refl
    | folder entries =>
      apply keepsFolders_folder
      intro name inner hinner
      exact ⟨_, h entries rfl name inner hinner, KeepsFolders.refl _⟩
  | cons first location ih =>
    cases n with
    | file data => apply KeepsFolders.refl
    | folder entries =>
      rw [modify]
      split
      · next child hchild =>
        apply keepsFolders_folder
        intro name inner hinner
        rw [Bindings.get?_put]
        split
        · next heq =>
          rw [heq, hchild] at hinner
          obtain rfl := Option.some.inj hinner
          refine ⟨_, rfl, ih ?_⟩
          intro found hfound
          apply h found
          rw [get?, Node.entries, hchild]
          exact hfound
        · exact ⟨_, hinner, KeepsFolders.refl _⟩
      · apply KeepsFolders.refl

end Node

/-! ### Where a folder is -/

namespace Disk

variable {d d' : Disk} {folder name : String} {location : Location} {entries : Bindings Node}

/-- The location of the folder with the path. -/
def base (d : Disk) (folder : String) : Except Fault Location :=
  d.follow (if isAbsolute folder then [] else d.working) (pathNames folder)

/-- The path leads to the folder at the location, which has the entries. -/
structure Opens (d : Disk) (folder : String) (location : Location) (entries : Bindings Node) :
    Prop where
  base : d.base folder = .ok location
  root : d.root.get? location = some (.folder entries)

/-- A path leads to one folder only. -/
theorem Opens.unique {location' : Location} {entries' : Bindings Node}
    (h : d.Opens folder location entries) (h' : d.Opens folder location' entries') :
  location = location' ∧ entries = entries'
  := by
  obtain rfl := Except.ok.inj (h.base.symm.trans h'.base)
  exact ⟨rfl, Node.folder.inj (Option.some.inj (h.root.symm.trans h'.root))⟩

theorem follow_append (d : Disk) (start : Location) (names more : List String) :
  d.follow start (names ++ more) = d.follow start names >>= (d.follow · more)
  := by
  fun_induction follow d start names with
  | case1 start => rfl
  | case2 start names ih => rw [List.cons_append, follow, ih]
  | case3 start names ih => rw [List.cons_append, follow, ih]
  | case4 start name names hdot hdots ih =>
    rw [List.cons_append, follow]
    · cases d.lookup start name with
      | error fault => rfl
      | ok found =>
        obtain _ | _ | inner := found
        · rfl
        · rfl
        · apply ih
    · exact hdot
    · exact hdots

/-- What names lead to, they still lead to when all folders are kept. -/
theorem follow_of_keepsFolders (h : d.root.KeepsFolders d'.root) {start : Location}
    {names : List String} (hfound : d.follow start names = .ok location) :
  d'.follow start names = .ok location
  := by
  fun_induction follow d start names with
  | case1 start => exact hfound
  | case2 start names ih => apply ih hfound
  | case3 start names ih => apply ih hfound
  | case4 start name names hdot hdots ih =>
    obtain ⟨node, hlookup, hrest⟩ := bind_eq_ok_iff.mp hfound
    obtain _ | _ | inner := node
    · contradiction
    · contradiction
    · obtain ⟨hsize, hget⟩ := lookup_eq_ok_iff.mp hlookup
      obtain ⟨inner', hinner'⟩ := h _ _ hget
      rw [follow, lookup_eq_ok_iff.mpr ⟨hsize, hinner'⟩]
      · apply ih hrest
      · exact hdot
      · exact hdots

/-- What a path leads to, it still leads to when all folders are kept. -/
theorem target_of_keepsFolders (h : d.root.KeepsFolders d'.root) (hworking : d'.working = d.working)
    {path : String} {found : Target} (hfound : d.target path = .ok found) :
  d'.target path = .ok found
  := target_of_follow hworking.symm (follow_of_keepsFolders h) hfound

/-- No folder is made where the names lead to one already. -/
theorem makeFoldersFrom_of_follow {start : Location} {names : List String}
    (h : d.follow start names = .ok location) :
  d.makeFoldersFrom start names = .ok d
  := by
  fun_induction follow d start names with
  | case1 start => rw [makeFoldersFrom]
  | case2 start names ih =>
    rw [makeFoldersFrom]
    apply ih h
  | case3 start names ih =>
    rw [makeFoldersFrom]
    apply ih h
  | case4 start name names hdot hdots ih =>
    obtain ⟨node, hlookup, hrest⟩ := bind_eq_ok_iff.mp h
    obtain _ | _ | inner := node
    · contradiction
    · contradiction
    · rw [makeFoldersFrom, hlookup]
      · apply ih hrest
      · exact hdot
      · exact hdots

theorem Opens.makeFolders_eq (h : d.Opens folder location entries)
    (hfault : pathFault? folder = none) :
  d.makeFolders folder = .ok d
  := by
  rw [makeFolders, hfault]
  apply makeFoldersFrom_of_follow h.base

/-- A folder is found where it was after its entries are changed, unless a folder in it is
taken away. -/
theorem Opens.modify (h : d.Opens folder location entries)
    {change : Bindings Node → Bindings Node}
    (hchange : ∀ name inner, Bindings.get? name entries = some (.folder inner) →
      Bindings.get? name (change entries) = some (.folder inner)) :
  (d.modify location change).Opens folder location (change entries)
  := by
  have hkeeps : d.root.KeepsFolders (d.modify location change).root := by
    apply Node.keepsFolders_modify
    intro found hfound
    rw [h.root] at hfound
    obtain rfl := Node.folder.inj (Option.some.inj hfound)
    exact hchange
  exact ⟨follow_of_keepsFolders hkeeps h.base, Node.get?_modify h.root⟩

/-- To put a file where there is no folder takes away no folder. -/
theorem Opens.put (h : d.Opens folder location entries)
    (hname : ∀ inner, Bindings.get? name entries ≠ some (.folder inner)) (data : ByteArray) :
  (d.modify location (Bindings.put name (.file data))).Opens folder location
    (Bindings.put name (.file data) entries)
  := by
  apply h.modify
  intro other inner hinner
  rw [Bindings.get?_put]
  split
  · next heq =>
    rw [heq] at hinner
    apply absurd hinner (hname inner)
  · exact hinner

theorem Opens.drop (h : d.Opens folder location entries)
    (hname : ∀ inner, Bindings.get? name entries ≠ some (.folder inner)) :
  (d.modify location (Bindings.drop name)).Opens folder location (Bindings.drop name entries)
  := by
  apply h.modify
  intro other inner hinner
  rw [Bindings.get?_drop]
  split
  · next heq =>
    rw [heq] at hinner
    apply absurd hinner (hname inner)
  · exact hinner

/-- What is below the folder are its entries. -/
theorem Opens.get?_eq (h : d.Opens folder location entries) (name : String) :
  d.root.get? (location ++ [name]) = Bindings.get? name entries
  := by
  rw [Node.get?_append, h.root]
  change (Bindings.get? name entries).bind some = _
  apply Option.bind_fun_some

theorem Opens.lookup_eq (h : d.Opens folder location entries)
    (hsize : name.utf8ByteSize ≤ maxNameSize) :
  d.lookup location name = .ok (Bindings.get? name entries)
  := by
  apply lookup_eq_ok_iff.mpr ⟨hsize, h.get?_eq name⟩

/-! ### Paths in a folder -/

/-- A path that is wrong in itself leads nowhere. -/
theorem target_of_pathFault? {path : String} {fault : Fault} (h : pathFault? path = some fault) :
  d.target path = .error fault
  := by
  rw [target, h]

/-- A path leads to the entry with its last name, in the folder to which the others lead. -/
theorem target_eq_of_pathNames {path : String} {names : List String}
    (hfault : pathFault? path = none) (hnames : pathNames path = names ++ [name])
    (hname : name ≠ "." ∧ name ≠ "..") :
  d.target path = (d.follow (if isAbsolute path then [] else d.working) names).map
    fun location => .entry location name (path.toList.getLast? == some '/')
  := by
  have hne : path.isEmpty = false := by
    rw [← Bool.not_eq_true, String.isEmpty_iff]
    rintro rfl
    apply absurd hnames (List.append_ne_nil_of_right_ne_nil _ (List.cons_ne_nil _ _)).symm
  rw [target, hfault]
  simp only [hne, Bool.false_eq_true, if_false, hnames, List.getLast?_append,
    List.getLast?_singleton, List.dropLast_concat]
  split
  · next heq => contradiction
  · next heq =>
    apply absurd (Option.some.inj heq) hname.1
  · next heq =>
    apply absurd (Option.some.inj heq) hname.2
  · next heq =>
    obtain rfl := Option.some.inj heq
    rfl

/-- The path of a name in a folder leads to the entry of that name. -/
theorem target_join (hname : IsName name) (hfault : pathFault? (join folder name) = none) :
  d.target (join folder name) = (d.base folder).map fun location => .entry location name false
  := by
  have hrelative := isAbsolute_of_notMem hname.notMem
  have hnames : pathNames (join folder name) = pathNames folder ++ [name] := by
    rw [pathNames_join hrelative, pathNames_of_isName hname]
  have hslash : ((join folder name).toList.getLast? == some '/') = false := by
    apply beq_eq_false_iff_ne.mpr
    rw [getLast?_join hrelative hname.ne_empty]
    intro hlast
    apply hname.notMem (List.mem_of_getLast? hlast)
  rw [target_eq_of_pathNames hfault hnames ⟨hname.ne_dot, hname.ne_dots⟩, isAbsolute_join hrelative,
    hslash]
  rfl

/-- When the path of a name leads to an entry, this is the entry of that name. -/
theorem entry_of_target_join (hname : IsName name) {name' : String} {slash : Bool}
    (h : d.target (join folder name) = .ok (.entry location name' slash)) :
  pathFault? (join folder name) = none ∧ d.base folder = .ok location ∧ name' = name
    ∧ slash = false
  := by
  cases hfault : pathFault? (join folder name) with
  | some fault =>
    rw [target_of_pathFault? hfault] at h
    contradiction
  | none =>
    rw [target_join hname hfault] at h
    obtain ⟨_, hbase, heq⟩ := map_eq_ok_iff.mp h
    cases heq
    exact ⟨rfl, hbase, rfl, rfl⟩

theorem Fits.target_eq (h : Fits folder name) (hbase : d.base folder = .ok location) :
  d.target (join folder name) = .ok (.entry location name false)
  := by
  rw [target_join h.isName h.path, hbase]
  rfl

/-! ### Operations in a folder -/

namespace Opens

variable (h : d.Opens folder location entries) (hname : Fits folder name)

include h hname

theorem target_eq :
  d.target (join folder name) = .ok (.entry location name false)
  := hname.target_eq h.base

theorem read_eq :
  d.read (join folder name) = match Bindings.get? name entries with
    | none => .error (.os .notFound)
    | some (.folder _) => .error (.os .isADirectory)
    | some (.file data) => .ok data
  := by
  simp only [read, h.target_eq hname, h.lookup_eq hname.size, bind, Except.bind]
  rfl

theorem isPresent_eq :
  d.isPresent (join folder name) = (Bindings.get? name entries).isSome
  := by
  simp only [isPresent, h.target_eq hname, h.lookup_eq hname.size]
  obtain _ | _ | _ := Bindings.get? name entries <;> rfl

theorem remove_eq :
  d.remove (join folder name) = match Bindings.get? name entries with
    | none => .error (.os .notFound)
    | some (.folder _) => .error (.os .isADirectory)
    | some (.file _) => .ok (d.modify location (Bindings.drop name))
  := by
  simp only [remove, h.target_eq hname, h.lookup_eq hname.size, bind, Except.bind]
  rfl

theorem write_eq (data : ByteArray) :
  d.write (join folder name) data = match Bindings.get? name entries with
    | some (.folder _) => .error (.os .isADirectory)
    | _ => .ok (d.modify location (Bindings.put name (.file data)))
  := by
  simp only [write, h.target_eq hname, h.lookup_eq hname.size, bind, Except.bind]
  rfl

/-- A file is renamed when there is no folder of the new name. -/
theorem rename_eq {source : String} (hsource : Fits folder source) {data : ByteArray}
    (hdata : Bindings.get? source entries = some (.file data)) :
  d.rename (join folder source) (join folder name) = match Bindings.get? name entries with
    | some (.folder _) => .error (.os .isADirectory)
    | _ => .ok ((d.modify location (Bindings.drop source)).modify location
      (Bindings.put name (.file data)))
  := by
  simp only [rename, h.target_eq hsource, h.target_eq hname, h.lookup_eq hsource.size,
    h.lookup_eq hname.size, hdata, bind, Except.bind]
  rfl

end Opens

end Disk

end Agenda.Storage
