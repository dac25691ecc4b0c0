import Mathlib.Tactic.Use
import Agenda.Proofs.Failure
import Agenda.Storage.Disk

/-!
# What is read after a disk is changed

When data is written to a disk, whether to a temporary file or in place, then a file that can
be read afterwards either holds that data or could be read before with the same content.
`Disk.Rewrites` states this for the whole disk.  It does not depend on the paths: a file never
becomes a folder, so a path that leads to a file led there before.
-/

namespace Agenda.Storage

/-! ### Nodes -/

namespace Node

/-- Both nodes are folders, or they are files with the same content. -/
inductive Alike : Node → Node → Prop
  | file (content : ByteArray) : Alike (.file content) (.file content)
  | folder (entries entries' : List (String × Node)) : Alike (.folder entries) (.folder entries')

/-- Whatever is at a location in the second node is a file with the data, or is like what is
there in the first node. -/
def Rewrites (data : ByteArray) (n n' : Node) : Prop :=
  ∀ location found', n'.get? location = some found' →
    found' = .file data ∨ ∃ found, n.get? location = some found ∧ found.Alike found'

variable {data : ByteArray} {n n' n'' : Node}

theorem Alike.refl (n : Node) :
  n.Alike n
  := by
  cases n with
  | file content => apply Alike.file
  | folder entries => apply Alike.folder

theorem Alike.trans (h : n.Alike n') (h' : n'.Alike n'') :
  n.Alike n''
  := by
  cases h with
  | file content => apply h'
  | folder entries entries' =>
    cases h' with
    | folder _ entries'' => apply Alike.folder

theorem Rewrites.refl (data : ByteArray) (n : Node) :
  n.Rewrites data n
  := by
  intro location found hfound
  right
  exact ⟨found, hfound, Alike.refl found⟩

theorem Rewrites.trans (h : n.Rewrites data n') (h' : n'.Rewrites data n'') :
  n.Rewrites data n''
  := by
  intro location found'' hfound''
  obtain hdata | ⟨found', hfound', halike'⟩ := h' location found'' hfound''
  · left
    exact hdata
  · obtain rfl | ⟨found, hfound, halike⟩ := h location found' hfound'
    · cases halike'
      left
      rfl
    · right
      exact ⟨found, hfound, halike.trans halike'⟩

/-- A file has nothing in it. -/
theorem eq_file_of_get? {content : ByteArray} {location : Location} {found : Node}
    (h : (Node.file content).get? location = some found) :
  found = .file content
  := by
  cases location with
  | nil => exact (Option.some.inj h).symm
  | cons name location => contradiction

/-- A folder is rewritten when its entries become files with the data or are rewritten
themselves. -/
theorem rewrites_folder {entries entries' : Bindings Node}
    (h : ∀ name child', Bindings.get? name entries' = some child' → child' = .file data
      ∨ ∃ child, Bindings.get? name entries = some child ∧ child.Rewrites data child') :
  (Node.folder entries).Rewrites data (.folder entries')
  := by
  rintro (_ | ⟨name, location⟩) found' hfound'
  · obtain rfl := Option.some.inj hfound'
    right
    exact ⟨_, rfl, Alike.folder entries entries'⟩
  · obtain ⟨child', hchild', hin⟩ := Option.bind_eq_some_iff.mp hfound'
    obtain rfl | ⟨child, hchild, hrewrites⟩ := h name child' hchild'
    · left
      apply eq_file_of_get? hin
    · obtain hdata | ⟨found, hfound, halike⟩ := hrewrites location found' hin
      · left
        exact hdata
      · right
        exact ⟨found, Option.bind_eq_some_iff.mpr ⟨child, hchild, hfound⟩, halike⟩

/-- Every entry is dropped, kept or made a file with the data. -/
def Refiles (data : ByteArray) (change : Bindings Node → Bindings Node) : Prop :=
  ∀ entries name child, Bindings.get? name (change entries) = some child →
    child = .file data ∨ Bindings.get? name entries = some child

theorem refiles_put (name : String) (data : ByteArray) :
  Refiles data (Bindings.put name (.file data))
  := by
  intro entries other child hchild
  rw [Bindings.get?_put] at hchild
  split at hchild
  · left
    exact (Option.some.inj hchild).symm
  · right
    exact hchild

theorem refiles_drop (name : String) (data : ByteArray) :
  Refiles data (Bindings.drop name)
  := by
  intro entries other child hchild
  rw [Bindings.get?_drop] at hchild
  split at hchild
  · contradiction
  · right
    exact hchild

/-- A node is rewritten when one of its folders is. -/
theorem rewrites_modify {change : Bindings Node → Bindings Node} (h : Refiles data change)
    (location : Location) (n : Node) :
  n.Rewrites data (n.modify change location)
  := by
  induction location generalizing n with
  | nil =>
    cases n with
    | file content => apply Rewrites.refl
    | folder entries =>
      apply rewrites_folder
      intro name child hchild
      obtain hdata | hkept := h entries name child hchild
      · left
        exact hdata
      · right
        exact ⟨child, hkept, Rewrites.refl data child⟩
  | cons first location ih =>
    cases n with
    | file content => apply Rewrites.refl
    | folder entries =>
      rw [modify]
      split
      · next child hchild =>
        apply rewrites_folder
        intro name child' hchild'
        right
        rw [Bindings.get?_put] at hchild'
        split at hchild'
        · next heq =>
          obtain rfl := Option.some.inj hchild'
          rw [heq]
          exact ⟨child, hchild, ih child⟩
        · exact ⟨child', hchild', Rewrites.refl data child'⟩
      · apply Rewrites.refl

/-- What is found where an entry was put is that entry. -/
theorem get?_modify_put {name : String} {put found : Node} {location : Location} {n : Node}
    (h : (n.modify (Bindings.put name put) location).get? (location ++ [name]) = some found) :
  found = put
  := by
  induction location generalizing n with
  | nil =>
    cases n with
    | file content => contradiction
    | folder entries =>
      simp only [modify, List.nil_append, get?, Node.entries, Bindings.get?_put] at h
      simpa [eq_comm] using h
  | cons first location ih =>
    cases n with
    | file content => contradiction
    | folder entries =>
      rw [modify] at h
      cases hchild : Bindings.get? first entries with
      | none =>
        simp [hchild, get?, Node.entries] at h
      | some child =>
        simp only [hchild, List.cons_append, get?, Node.entries, Bindings.get?_put] at h
        apply ih h

end Node

/-! ### Disks -/

namespace Disk

/-- The files of the second disk hold the data, or are files of the first one with the same
content, and its folders are folders of the first one. -/
structure Rewrites (data : ByteArray) (d d' : Disk) : Prop where
  root : d.root.Rewrites data d'.root
  working : d'.working = d.working

variable {data content : ByteArray} {d d' d'' : Disk} {path : String}

theorem Rewrites.refl (data : ByteArray) (d : Disk) :
  d.Rewrites data d
  := ⟨Node.Rewrites.refl data d.root, rfl⟩

theorem Rewrites.trans (h : d.Rewrites data d') (h' : d'.Rewrites data d'') :
  d.Rewrites data d''
  := ⟨h.root.trans h'.root, h'.working.trans h.working⟩

theorem rewrites_modify {change : Bindings Node → Bindings Node}
    (h : Node.Refiles data change) (location : Location) (d : Disk) :
  d.Rewrites data (d.modify location change)
  := ⟨Node.rewrites_modify h location d.root, rfl⟩

/-- An entry is looked up unless its name is too long. -/
theorem lookup_eq_ok_iff {location : Location} {name : String} {found : Option Node} :
  d.lookup location name = .ok found
    ↔ name.utf8ByteSize ≤ maxNameSize ∧ d.root.get? (location ++ [name]) = found
  := by
  rw [lookup]
  split
  · next hlarge => simp [Nat.not_le.mpr hlarge]
  · next hsize => simp [Nat.not_lt.mp hsize]

/-- A path can be read when it leads to a file. -/
theorem read_eq_ok_iff :
  d.read path = .ok content ↔ ∃ location name, d.target path = .ok (.entry location name false)
    ∧ d.lookup location name = .ok (some (.file content))
  := by
  constructor
  · intro h
    obtain ⟨found, htarget, hfound⟩ := bind_eq_ok_iff.mp h
    obtain _ | ⟨location, name, slash⟩ := found
    · contradiction
    · obtain ⟨node, hlookup, hnode⟩ := bind_eq_ok_iff.mp hfound
      obtain _ | found | _ := node
      · contradiction
      · cases slash with
        | true => contradiction
        | false =>
          obtain rfl := Except.ok.inj hnode
          exact ⟨location, name, htarget, hlookup⟩
      · contradiction
  · rintro ⟨location, name, htarget, hlookup⟩
    simp only [read, htarget, hlookup, bind, Except.bind]
    rfl

/-- Paths lead where they do on another disk when names do. -/
theorem target_of_follow (hworking : d'.working = d.working)
    (hfollow : ∀ {start : Location} {names : List String} {location : Location},
      d'.follow start names = .ok location → d.follow start names = .ok location)
    {found : Target} (hfound : d'.target path = .ok found) :
  d.target path = .ok found
  := by
  have hmap : ∀ {start : Location} {names : List String} {make : Location → Target},
      (d'.follow start names).map make = .ok found →
      (d.follow start names).map make = .ok found := by
    intro start names make hmade
    obtain ⟨location, hlocation, rfl⟩ := map_eq_ok_iff.mp hmade
    apply map_eq_ok_iff.mpr ⟨location, hfollow hlocation, rfl⟩
  rw [target, hworking] at hfound
  rw [target]
  split at hfound
  · contradiction
  · split at hfound
    · contradiction
    · next hne =>
      simp only [if_neg hne] at hfound ⊢
      split at hfound <;> apply hmap hfound

namespace Rewrites

variable (h : d.Rewrites data d')

include h

/-- A folder that is looked up was a folder before. -/
theorem lookup_folder {location : Location} {name : String} {entries : List (String × Node)}
    (hfound : d'.lookup location name = .ok (some (.folder entries))) :
  ∃ old, d.lookup location name = .ok (some (.folder old))
  := by
  obtain ⟨hsize, hget⟩ := lookup_eq_ok_iff.mp hfound
  obtain hdata | ⟨found, hold, halike⟩ := h.root _ _ hget
  · contradiction
  · cases halike with
    | folder old => exact ⟨old, lookup_eq_ok_iff.mpr ⟨hsize, hold⟩⟩

/-- A file that is looked up holds the data or was the same file before. -/
theorem lookup_file {location : Location} {name : String}
    (hfound : d'.lookup location name = .ok (some (.file content))) :
  content = data ∨ d.lookup location name = .ok (some (.file content))
  := by
  obtain ⟨hsize, hget⟩ := lookup_eq_ok_iff.mp hfound
  obtain hdata | ⟨found, hold, halike⟩ := h.root _ _ hget
  · left
    exact Node.file.inj hdata
  · cases halike
    right
    apply lookup_eq_ok_iff.mpr ⟨hsize, hold⟩

/-- What names lead to they led to before. -/
theorem follow_eq {location found : Location} {names : List String}
    (hfound : d'.follow location names = .ok found) :
  d.follow location names = .ok found
  := by
  fun_induction follow d' location names with
  | case1 location => exact hfound
  | case2 location names ih => apply ih hfound
  | case3 location names ih => apply ih hfound
  | case4 location name names hdot hdots ih =>
    obtain ⟨node, hlookup, hrest⟩ := bind_eq_ok_iff.mp hfound
    obtain _ | _ | entries := node
    · contradiction
    · contradiction
    · obtain ⟨old, hold⟩ := h.lookup_folder hlookup
      rw [follow]
      · apply bind_eq_ok_iff.mpr ⟨_, hold, ih hrest⟩
      · exact hdot
      · exact hdots

/-- What a path leads to it led to before. -/
theorem target_eq {found : Target} (hfound : d'.target path = .ok found) :
  d.target path = .ok found
  := target_of_follow h.working h.follow_eq hfound

/-- A file that is read holds the data or was read before. -/
theorem read_eq (hread : d'.read path = .ok content) :
  content = data ∨ d.read path = .ok content
  := by
  obtain ⟨location, name, htarget, hlookup⟩ := read_eq_ok_iff.mp hread
  obtain hdata | hold := h.lookup_file hlookup
  · left
    exact hdata
  · right
    apply read_eq_ok_iff.mpr ⟨location, name, h.target_eq htarget, hold⟩

end Rewrites

/-! ### Changes of a disk -/

/-- What is written is put where the path leads, and there is no folder there. -/
theorem write_cases (h : d.write path data = .ok d') :
  ∃ location name, d.target path = .ok (.entry location name false)
    ∧ name.utf8ByteSize ≤ maxNameSize
    ∧ (∀ inner, d.root.get? (location ++ [name]) ≠ some (.folder inner))
    ∧ d' = d.modify location (Bindings.put name (.file data))
  := by
  obtain ⟨found, htarget, hfound⟩ := bind_eq_ok_iff.mp h
  obtain _ | ⟨location, name, slash⟩ := found
  · contradiction
  · cases slash with
    | true => contradiction
    | false =>
      obtain ⟨node, hlookup, hnode⟩ := bind_eq_ok_iff.mp hfound
      obtain ⟨hsize, hget⟩ := lookup_eq_ok_iff.mp hlookup
      use location, name, htarget, hsize
      split at hnode
      · contradiction
      · next hfolder =>
        refine ⟨?_, (Except.ok.inj hnode).symm⟩
        intro inner hinner
        apply hfolder inner
        rw [← hget, hinner]

/-- What is removed is a file to which the path leads. -/
theorem remove_cases (h : d.remove path = .ok d') :
  ∃ location name content, d.target path = .ok (.entry location name false)
    ∧ d.root.get? (location ++ [name]) = some (.file content)
    ∧ d' = d.modify location (Bindings.drop name)
  := by
  obtain ⟨found, htarget, hfound⟩ := bind_eq_ok_iff.mp h
  obtain _ | ⟨location, name, slash⟩ := found
  · contradiction
  · obtain ⟨node, hlookup, hnode⟩ := bind_eq_ok_iff.mp hfound
    obtain _ | content | _ := node
    · contradiction
    · cases slash with
      | true => contradiction
      | false =>
        exact ⟨location, name, content, htarget, (lookup_eq_ok_iff.mp hlookup).2,
          (Except.ok.inj hnode).symm⟩
    · contradiction

/-- A file is renamed by taking it away and putting it where the path leads, and there is no
folder there. -/
theorem rename_cases {source : String} (h : d.rename source path = .ok d') :
  ∃ origin oldName slash location name content,
    d.target source = .ok (.entry origin oldName slash)
      ∧ d.root.get? (origin ++ [oldName]) = some (.file content)
      ∧ d.target path = .ok (.entry location name false) ∧ name.utf8ByteSize ≤ maxNameSize
      ∧ (∀ inner, d.root.get? (location ++ [name]) ≠ some (.folder inner))
      ∧ d' = (d.modify origin (Bindings.drop oldName)).modify location
        (Bindings.put name (.file content))
  := by
  obtain ⟨found, hsource, hpath⟩ := bind_eq_ok_iff.mp h
  obtain ⟨there, htarget, hfound⟩ := bind_eq_ok_iff.mp hpath
  obtain _ | ⟨origin, oldName, slash⟩ := found
  · contradiction
  · obtain _ | ⟨location, name, slash'⟩ := there
    · contradiction
    · obtain ⟨node, hlookup, hnode⟩ := bind_eq_ok_iff.mp hfound
      obtain _ | content | _ := node
      · contradiction
      · obtain ⟨old, hlookup', hold⟩ := bind_eq_ok_iff.mp hnode
        cases slash' with
        | true => contradiction
        | false =>
          use origin, oldName, slash, location, name, content, hsource
          obtain ⟨hsize, hget⟩ := lookup_eq_ok_iff.mp hlookup'
          use (lookup_eq_ok_iff.mp hlookup).2, htarget, hsize
          rw [hget]
          obtain _ | _ | _ := old
          · exact ⟨by simp, (Except.ok.inj hold).symm⟩
          · exact ⟨by simp, (Except.ok.inj hold).symm⟩
          · contradiction
      · contradiction

theorem rewrites_of_write (h : d.write path data = .ok d') :
  d.Rewrites data d'
  := by
  obtain ⟨location, name, -, -, -, rfl⟩ := write_cases h
  apply rewrites_modify (Node.refiles_put name data)

theorem rewrites_of_remove (h : d.remove path = .ok d') :
  d.Rewrites data d'
  := by
  obtain ⟨location, name, -, -, -, rfl⟩ := remove_cases h
  apply rewrites_modify (Node.refiles_drop name data)

/-- A file with the data that is put elsewhere still has the data. -/
theorem rewrites_move (data : ByteArray) (d : Disk) (origin location : Location)
    (oldName name : String) :
  d.Rewrites data
    ((d.modify origin (Bindings.drop oldName)).modify location (Bindings.put name (.file data)))
  := by
  apply Rewrites.trans (rewrites_modify (Node.refiles_drop oldName data) origin d)
  apply rewrites_modify (Node.refiles_put name data)

/-- A file that was written keeps its data under its new path. -/
theorem rewrites_of_rename {source : String} (hwrite : d.write source data = .ok d')
    (h : d'.rename source path = .ok d'') :
  d'.Rewrites data d''
  := by
  obtain ⟨origin, oldName, htarget, -, -, rfl⟩ := write_cases hwrite
  obtain ⟨_, _, slash, location, name, content, hsource, hcontent, -, -, -, rfl⟩ := rename_cases h
  -- the source still leads to where the data was put
  have hsame := (rewrites_modify (Node.refiles_put oldName data) origin d).target_eq hsource
  rw [htarget] at hsame
  cases hsame
  obtain rfl : content = data := Node.file.inj (Node.get?_modify_put hcontent)
  apply rewrites_move

end Disk

end Agenda.Storage
