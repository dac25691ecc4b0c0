import Mathlib.Logic.Basic
import Mathlib.Tactic.Use
import Agenda.Storage.Basic

/-!
# Paths in a folder

How the path of a name within a folder is put together.  When the name is not absolute, the
path starts where that of the folder does, goes through the names of the folder and then through
those of the name.  A name without a slash is the only one that it goes through.
-/

namespace Agenda.Storage

/-- The text is the name of an entry: it is not empty, has no slash and is none of the names
that a folder has for itself and for the folder above it. -/
structure IsName (name : String) : Prop where
  ne_empty : name ≠ ""
  notMem : '/' ∉ name.toList
  ne_dot : name ≠ "."
  ne_dots : name ≠ ".."

/-- The names that a folder has for itself and for the folder above it consist of dots. -/
theorem ne_dots_of_mem {name : String} {c : Char} (h : c ∈ name.toList) (hc : c ≠ '.') :
  name ≠ "." ∧ name ≠ ".."
  := by
  constructor
  · rintro rfl
    simp [hc] at h
  · rintro rfl
    simp [hc] at h

namespace Disk

/-! ### The texts between slashes -/

theorem splitSlashes_ne_nil (s : List Char) :
  splitSlashes s ≠ []
  := by
  fun_cases splitSlashes s <;> simp

theorem splitSlashes_append_slash (front back : List Char) :
  splitSlashes (front ++ '/' :: back) = splitSlashes front ++ splitSlashes back
  := by
  induction front with
  | nil => rfl
  | cons c front ih =>
    rw [List.cons_append, splitSlashes, splitSlashes, ih]
    split
    · rfl
    · obtain ⟨part, parts, hparts⟩ := List.exists_cons_of_ne_nil (splitSlashes_ne_nil front)
      rw [hparts]
      rfl

/-- What precedes the first slash is a part of the first text. -/
theorem splitSlashes_append_of_notMem {front : List Char} (h : '/' ∉ front) (s : List Char) :
  ∃ part parts, splitSlashes s = part :: parts
    ∧ splitSlashes (front ++ s) = (front ++ part) :: parts
  := by
  obtain ⟨part, parts, hparts⟩ := List.exists_cons_of_ne_nil (splitSlashes_ne_nil s)
  use part, parts, hparts
  induction front with
  | nil => exact hparts
  | cons c front ih =>
    rw [List.mem_cons, not_or] at h
    rw [List.cons_append, splitSlashes, if_neg (Ne.symm h.1), ih h.2]
    rfl

theorem splitSlashes_of_notMem {s : List Char} (h : '/' ∉ s) :
  splitSlashes s = [s]
  := by
  obtain ⟨part, parts, hnil, hs⟩ := splitSlashes_append_of_notMem h []
  obtain ⟨rfl, rfl⟩ := List.cons.inj hnil
  rw [List.append_nil] at hs
  exact hs

/-! ### The names of a path -/

theorem pathNames_append_slash (front back : String) :
  pathNames (front ++ "/" ++ back) = pathNames front ++ pathNames back
  := by
  have hparts : (front ++ "/" ++ back).toList = front.toList ++ '/' :: back.toList := by
    simp
  rw [pathNames, hparts, splitSlashes_append_slash, List.filter_append, List.map_append]
  rfl

theorem pathNames_of_notMem {name : String} (hne : name ≠ "") (h : '/' ∉ name.toList) :
  pathNames name = [name]
  := by
  have hchars : name.toList ≠ [] := String.toList_eq_nil_iff.not.mpr hne
  rw [pathNames, splitSlashes_of_notMem h]
  simp [hchars]

theorem pathNames_of_isName {name : String} (h : IsName name) :
  pathNames name = [name]
  := pathNames_of_notMem h.ne_empty h.notMem

/-- No name of a path has a slash. -/
theorem notMem_of_mem_pathNames {path name : String} (h : name ∈ pathNames path) :
  '/' ∉ name.toList
  := by
  have hparts : ∀ s part, part ∈ splitSlashes s → '/' ∉ part := by
    intro s
    induction s with
    | nil => simp [splitSlashes]
    | cons c s ih =>
      obtain ⟨part, parts, hs⟩ := List.exists_cons_of_ne_nil (splitSlashes_ne_nil s)
      rw [hs] at ih
      obtain ⟨hpart, hparts⟩ := List.forall_mem_cons.mp ih
      rw [splitSlashes, hs]
      split
      · exact List.forall_mem_cons.mpr ⟨List.not_mem_nil, ih⟩
      · next hc =>
        apply List.forall_mem_cons.mpr ⟨_, hparts⟩
        rw [List.mem_cons, not_or]
        exact ⟨Ne.symm hc, hpart⟩
  obtain ⟨part, hpart, rfl⟩ := List.mem_map.mp h
  rw [String.toList_ofList]
  apply hparts path.toList part (List.mem_filter.mp hpart).1

/-- What stands before the first slash is in the first name of a path. -/
theorem exists_pathNames_append {front : String} (h : '/' ∉ front.toList) (hne : front ≠ "")
    (back : String) :
  ∃ part rest, pathNames (front ++ back) = (front ++ part) :: rest
  := by
  obtain ⟨part, parts, -, happend⟩ := splitSlashes_append_of_notMem h back.toList
  use String.ofList part, (parts.filter (!·.isEmpty)).map String.ofList
  have hfirst : front.toList ++ part ≠ [] :=
    List.append_ne_nil_of_left_ne_nil (String.toList_eq_nil_iff.not.mpr hne) part
  rw [pathNames, String.toList_append, happend, List.filter_cons_of_pos (by simpa using hfirst),
    List.map_cons, String.ofList_append, String.ofList_toList]

/-! ### The path of a name within a folder -/

theorem isAbsolute_of_notMem {name : String} (h : '/' ∉ name.toList) :
  isAbsolute name = false
  := by
  apply beq_eq_false_iff_ne.mpr
  intro hhead
  apply h (List.mem_of_mem_head? hhead)

/-- Whether a path is absolute is decided by its first part. -/
theorem isAbsolute_append {front : String} (h : front ≠ "") (back : String) :
  isAbsolute (front ++ back) = isAbsolute front
  := by
  obtain ⟨c, s, hs⟩ := List.exists_cons_of_ne_nil (String.toList_eq_nil_iff.not.mpr h)
  rw [isAbsolute, isAbsolute, String.toList_append, hs]
  rfl

/-- A path that is not absolute goes through a name unless it is empty. -/
theorem pathNames_ne_nil {path : String} (hne : path ≠ "") (h : isAbsolute path = false) :
  pathNames path ≠ []
  := by
  obtain ⟨c, s, hs⟩ := List.exists_cons_of_ne_nil (String.toList_eq_nil_iff.not.mpr hne)
  have hpath : path = String.ofList [c] ++ String.ofList s := by
    apply String.toList_inj.mp
    simp [hs]
  have hc : '/' ∉ (String.ofList [c]).toList := by
    rw [String.toList_ofList, List.mem_singleton]
    rintro rfl
    rw [isAbsolute, hs] at h
    contradiction
  obtain ⟨part, rest, hnames⟩ := exists_pathNames_append hc (by simp) (String.ofList s)
  rw [hpath, hnames]
  apply List.cons_ne_nil

/-- What precedes the names in the paths of a folder. -/
def lead (folder : String) : String :=
  if folder.isEmpty then ""
  else if folder.toList.getLast? == some '/' then folder
  else folder ++ "/"

variable {folder name : String}

theorem join_eq (h : isAbsolute name = false) :
  join folder name = lead folder ++ name
  := by
  rw [join, lead, h, Bool.false_or]
  split
  · rw [String.empty_append]
  · split <;> rfl

/-- The names of a folder are followed by nothing, or by a slash that its path has or gets. -/
theorem lead_cases (folder : String) :
  folder = "" ∧ lead folder = ""
    ∨ folder ≠ "" ∧ ∃ front, lead folder = front ++ "/" ∧ (folder = front ++ "/" ∨ folder = front)
  := by
  rw [lead]
  split
  · next hempty =>
    left
    exact ⟨String.isEmpty_iff.mp hempty, rfl⟩
  · next hempty =>
    right
    use fun heq => hempty (String.isEmpty_iff.mpr heq)
    split
    · next hlast =>
      obtain ⟨front, hfront⟩ := List.getLast?_eq_some_iff.mp (beq_iff_eq.mp hlast)
      have hfolder : folder = String.ofList front ++ "/" := by
        apply String.toList_inj.mp
        simp [hfront]
      exact ⟨String.ofList front, hfolder, .inl hfolder⟩
    · exact ⟨folder, rfl, .inr rfl⟩

theorem pathNames_join (h : isAbsolute name = false) :
  pathNames (join folder name) = pathNames folder ++ pathNames name
  := by
  rw [join_eq h]
  obtain ⟨rfl, hlead⟩ | ⟨-, front, hlead, hfolder⟩ := lead_cases folder
  · rw [hlead, String.empty_append]
    rfl
  · have hslash : pathNames (front ++ "/") = pathNames front := by
      have happend := pathNames_append_slash front ""
      rw [String.append_empty] at happend
      rw [happend]
      apply List.append_nil
    rw [hlead, pathNames_append_slash]
    obtain rfl | rfl := hfolder
    · rw [hslash]
    · rfl

theorem isAbsolute_join (h : isAbsolute name = false) :
  isAbsolute (join folder name) = isAbsolute folder
  := by
  rw [join_eq h]
  obtain ⟨rfl, hlead⟩ | ⟨hne, front, hlead, rfl | rfl⟩ := lead_cases folder
  · rw [hlead, String.empty_append, h]
    rfl
  · rw [hlead, isAbsolute_append hne]
  · rw [hlead, String.append_assoc, isAbsolute_append hne]

/-- The path ends as the name does. -/
theorem getLast?_join (h : isAbsolute name = false) (hne : name ≠ "") :
  (join folder name).toList.getLast? = name.toList.getLast?
  := by
  rw [join_eq h, String.toList_append, List.getLast?_append,
    List.getLast?_eq_some_getLast (String.toList_eq_nil_iff.not.mpr hne)]
  rfl

/-! ### Names that fit -/

theorem pathFault?_eq_none_iff {path : String} :
  pathFault? path = none ↔ '\x00' ∉ path.toList ∧ path.utf8ByteSize ≤ maxPathSize
  := by
  rw [pathFault?, String.contains_char_eq, ← Nat.not_lt]
  split
  · next hnull => simpa using fun hnot => absurd (of_decide_eq_true hnull) hnot
  · next hnull =>
    have hnot : '\x00' ∉ path.toList := by simpa using hnull
    split <;> simp [*]

/-- Beyond the path of the folder, at most a slash precedes its names. -/
theorem lead_le (folder : String) :
  (∀ c ∈ (lead folder).toList, c ∈ folder.toList ∨ c = '/')
    ∧ (lead folder).utf8ByteSize ≤ folder.utf8ByteSize + 1
  := by
  obtain ⟨-, hlead⟩ | ⟨-, front, hlead, rfl | rfl⟩ := lead_cases folder
  · rw [hlead]
    exact ⟨fun c hc => absurd hc List.not_mem_nil, Nat.zero_le _⟩
  · rw [hlead]
    exact ⟨fun c hc => .inl hc, Nat.le_succ _⟩
  · rw [hlead, String.utf8ByteSize_append]
    refine ⟨?_, Nat.le_refl _⟩
    simp

/-- What is wrong with the path of a name is wrong with the name or with what precedes it. -/
theorem pathFault?_join_eq_none_iff (hname : '/' ∉ name.toList) :
  pathFault? (join folder name) = none ↔ '\x00' ∉ (lead folder).toList ∧ '\x00' ∉ name.toList
    ∧ (lead folder).utf8ByteSize + name.utf8ByteSize ≤ maxPathSize
  := by
  rw [pathFault?_eq_none_iff, join_eq (isAbsolute_of_notMem hname), String.toList_append,
    List.mem_append, not_or, String.utf8ByteSize_append, and_assoc]

/-- The name can be that of an entry of the folder, and neither it nor its path is too long. -/
structure Fits (folder name : String) : Prop where
  isName : IsName name
  size : name.utf8ByteSize ≤ maxNameSize
  path : pathFault? (join folder name) = none

/-- The end of a name that fits does so too when it is a name. -/
theorem Fits.of_append {front : String} (h : Fits folder (front ++ name)) (hname : IsName name) :
  Fits folder name
  := by
  obtain ⟨hlead, hnull, hpath⟩ := (pathFault?_join_eq_none_iff h.isName.notMem).mp h.path
  have hsize := h.size
  simp only [String.toList_append, List.mem_append, not_or, String.utf8ByteSize_append]
    at hnull hpath hsize
  refine ⟨hname, by omega, ?_⟩
  rw [pathFault?_join_eq_none_iff hname.notMem]
  exact ⟨hlead, hnull.2, by omega⟩

/-- Where a name fits, the path of the folder is in order. -/
theorem Fits.pathFault?_eq_none (h : Fits folder name) :
  pathFault? folder = none
  := by
  obtain ⟨hlead, -, hsize⟩ := (pathFault?_join_eq_none_iff h.isName.notMem).mp h.path
  rw [pathFault?_eq_none_iff]
  obtain ⟨rfl, -⟩ | ⟨-, front, heq, rfl | rfl⟩ := lead_cases folder
  · decide
  · rw [heq] at hlead hsize
    exact ⟨hlead, Nat.le_trans (Nat.le_add_right _ _) hsize⟩
  · rw [heq, String.toList_append, List.mem_append, not_or] at hlead
    rw [heq, String.utf8ByteSize_append] at hsize
    exact ⟨hlead.1, by omega⟩

/-- The path of the folder leaves room for all names. -/
structure HasRoom (folder : String) : Prop where
  notMem : '\x00' ∉ folder.toList
  size : folder.utf8ByteSize + 1 + maxNameSize ≤ maxPathSize

theorem HasRoom.fits (h : HasRoom folder) (hname : IsName name) (hnull : '\x00' ∉ name.toList)
    (hsize : name.utf8ByteSize ≤ maxNameSize) :
  Fits folder name
  := by
  obtain ⟨hmem, hlead⟩ := lead_le folder
  have hroom := h.size
  refine ⟨hname, hsize, ?_⟩
  rw [pathFault?_join_eq_none_iff hname.notMem]
  exact ⟨fun hlead => absurd (hmem _ hlead) (by simpa using h.notMem), hnull, by omega⟩

end Disk

end Agenda.Storage
