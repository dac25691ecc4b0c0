import Agenda.Proofs.Storage.Replacement

/-!
# Which files are changed

A file is known by its location and its content.  To write a path changes the file to which the
path leads and no other one.  To replace the file of a key, by way of a temporary file with a new
name, changes the file of the key and no other one.
-/

namespace Agenda.Storage

/-! ### Contents -/

namespace Node

/-- The content of a file; a folder has none. -/
def data? : Node → Option ByteArray
  | .file data => some data
  | .folder _ => none

/-- The content of the file at the location, if there is a file. -/
def content? (n : Node) (place : Location) : Option ByteArray :=
  (n.get? place).bind data?

variable {n : Node} {location place : Location} {name : String} {data : ByteArray}

theorem content?_cons (n : Node) (name : String) (place : Location) :
  n.content? (name :: place) = (Bindings.get? name n.entries).bind (content? · place)
  := by
  rw [content?, get?, Option.bind_assoc]
  rfl

theorem content?_eq_some_iff {content : ByteArray} :
  n.content? place = some content ↔ n.get? place = some (.file content)
  := by
  rw [content?]
  rcases n.get? place with _ | _ | _ <;> simp [data?]

/-- When a file is put where there is no folder, all other files are as before. -/
theorem content?_modify_put
    (hfolder : ∀ inner, n.get? (location ++ [name]) ≠ some (.folder inner))
    (hplace : place ≠ location ++ [name]) :
  (n.modify (Bindings.put name (.file data)) location).content? place = n.content? place
  := by
  induction location generalizing n place with
  | nil =>
    obtain _ | found := n
    · rfl
    · cases place with
      | nil => rfl
      | cons first place =>
        rw [modify, content?_cons, content?_cons, Node.entries, Node.entries, Bindings.get?_put]
        split
        · next heq =>
          -- there is nothing below a file, neither the new one nor an old one
          subst heq
          obtain ⟨second, rest, rfl⟩ :=
            List.exists_cons_of_ne_nil (l := place) (by simpa using hplace)
          have hold := hfolder
          simp only [List.nil_append, get?, Node.entries] at hold
          rcases hentry : Bindings.get? first found with _ | _ | inner
          · rfl
          · rfl
          · simp [hentry] at hold
        · rfl
  | cons first location ih =>
    obtain _ | found := n
    · rfl
    · rw [modify]
      split
      · next child hchild =>
        cases place with
        | nil => rfl
        | cons other place =>
          rw [content?_cons, content?_cons, Node.entries, Node.entries, Bindings.get?_put]
          split
          · next heq =>
            rw [heq, hchild]
            apply ih
            · intro inner hinner
              apply hfolder inner
              rw [List.cons_append, get?, Node.entries, hchild]
              exact hinner
            · intro hsame
              apply hplace
              rw [heq, hsame]
              rfl
          · rfl
      · rfl

end Node

/-! ### Changes of files -/

namespace Disk

variable {d d' : Disk} {folder id key path : String} {data : ByteArray}

/-- The content of the file at the location, if there is a file. -/
def content? (d : Disk) (place : Location) : Option ByteArray :=
  d.root.content? place

/-- Every file that is not at one of the places is in both disks, with the same content, or in
neither of them. -/
def ChangesOnly (d d' : Disk) (places : Location → Prop) : Prop :=
  ∀ place, ¬ places place → d'.content? place = d.content? place

/-- The path leads to the place. -/
def LeadsTo (d : Disk) (path : String) (place : Location) : Prop :=
  ∃ location name, d.target path = .ok (.entry location name false) ∧ place = location ++ [name]

/-- The place is that of the key in the folder. -/
def IsPlaceOf (d : Disk) (folder key : String) (place : Location) : Prop :=
  ∃ location, d.base folder = .ok location ∧ place = location ++ [key]

/-- To write a path changes the file to which the path leads. -/
theorem changesOnly_write (h : d.write path data = .ok d') :
  d.ChangesOnly d' (d.LeadsTo path)
  := by
  obtain ⟨location, name, htarget, -, hfolder, rfl⟩ := write_cases h
  intro place hplace
  apply Node.content?_modify_put hfolder
  rintro rfl
  apply hplace
  exact ⟨location, name, htarget, rfl⟩

/-- To replace the file of a key, whether this succeeds or fails, changes that file. -/
theorem IsUnused.changesOnly_replace (h : d.IsUnused folder key id) (hid : '/' ∉ id.toList)
    (hkey : EndsInName key) (data : ByteArray) :
  d.ChangesOnly (d.replace (join folder (temporaryName id key)) (join folder key) data).2
    (d.IsPlaceOf folder key)
  := by
  obtain ⟨fault, hreplace⟩ | ⟨location, entries, hopens, -, hfolder, hreplace⟩ :=
    h.replace_cases hid hkey data
  · rw [hreplace]
    exact fun _ _ => rfl
  · rw [hreplace]
    intro place hplace
    apply Node.content?_modify_put
    · intro inner hinner
      apply hfolder inner
      rw [Node.get?_append, hopens.root] at hinner
      simpa [Node.get?, Node.entries] using hinner
    · rintro rfl
      apply hplace
      exact ⟨location, hopens.base, rfl⟩

end Disk

end Agenda.Storage
