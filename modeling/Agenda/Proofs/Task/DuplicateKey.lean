import Agenda.Task.Basic
import Mathlib.Tactic.Use

/-!
# Keys of duplicates

The key of a task joins its title and its category in small letters with a bar.  Since a bar
may stand in either of them, the key does not determine the two.  `duplicateKey_eq_iff` says
which tasks have the same key: those that agree on both, and those of which one has a piece
of text with a bar in its title that the other one has in its category.
-/

namespace Agenda.Task

/-- The tasks have the same title and the same category in small letters. -/
def Agrees (t u : Task) : Prop :=
  Text.lower t.title = Text.lower u.title ∧ Text.lower t.category = Text.lower u.category

/-- In small letters, the title of `u` is the title of `t` followed by a bar and some text, and
the category of `t` is that text followed by a bar and the category of `u`. -/
def Shifts (t u : Task) : Prop :=
  ∃ moved : String, Text.lower u.title = Text.lower t.title ++ "|" ++ moved
    ∧ Text.lower t.category = moved ++ "|" ++ Text.lower u.category

/-- The tasks agree on title and category, or a piece of text with a bar is in the title of one
and in the category of the other. -/
def Coincides (t u : Task) : Prop :=
  t.Agrees u ∨ t.Shifts u ∨ u.Shifts t

/-- Of the tasks, only those that agree coincide. -/
def AreUnambiguous (tasks : List Task) : Prop :=
  ∀ t ∈ tasks, ∀ u ∈ tasks, t.Coincides u → t.Agrees u

theorem Agrees.refl (t : Task) :
  t.Agrees t
  := ⟨rfl, rfl⟩

theorem Agrees.symm {t u : Task} (h : t.Agrees u) :
  u.Agrees t
  := ⟨h.1.symm, h.2.symm⟩

theorem Agrees.trans {t u v : Task} (h : t.Agrees u) (h' : u.Agrees v) :
  t.Agrees v
  := ⟨h.1.trans h'.1, h.2.trans h'.2⟩

/-- Two texts that are cut at the same character are equal when the cuts are the same or when
one cut is at a later occurrence of that character. -/
theorem append_cons_eq_append_cons_iff {α : Type} {a : α} {s t u v : List α} :
  s ++ a :: t = u ++ a :: v ↔
    (s = u ∧ t = v) ∨ (∃ m, u = s ++ a :: m ∧ t = m ++ a :: v)
      ∨ ∃ m, s = u ++ a :: m ∧ v = m ++ a :: t
  := by
  constructor
  · intro h
    obtain ⟨m, hu, ht⟩ | ⟨m, hs, hv⟩ := List.append_eq_append_iff.mp h
    · cases m with
      | nil => simp_all
      | cons b m =>
        rw [List.cons_append, List.cons_eq_cons] at ht
        obtain ⟨rfl, rfl⟩ := ht
        right
        left
        use m
    · cases m with
      | nil => simp_all
      | cons b m =>
        rw [List.cons_append, List.cons_eq_cons] at hv
        obtain ⟨rfl, rfl⟩ := hv
        right
        right
        use m
  · rintro (⟨rfl, rfl⟩ | ⟨m, rfl, rfl⟩ | ⟨m, rfl, rfl⟩)
    · rfl
    · simp
    · simp

theorem shifts_iff {t u : Task} :
  t.Shifts u ↔ ∃ moved : List Char,
    (Text.lower u.title).toList = (Text.lower t.title).toList ++ '|' :: moved
      ∧ (Text.lower t.category).toList = moved ++ '|' :: (Text.lower u.category).toList
  := by
  constructor
  · rintro ⟨moved, htitle, hcategory⟩
    use moved.toList
    simp [htitle, hcategory]
  · rintro ⟨moved, htitle, hcategory⟩
    use String.ofList moved
    constructor
    · apply String.toList_inj.mp
      simp [htitle]
    · apply String.toList_inj.mp
      simp [hcategory]

theorem duplicateKey_eq_iff {t u : Task} :
  t.duplicateKey = u.duplicateKey ↔ t.Coincides u
  := by
  have hkey : ∀ t : Task, t.duplicateKey.toList =
      (Text.lower t.title).toList ++ '|' :: (Text.lower t.category).toList := by
    intro t
    simp [duplicateKey]
  rw [← String.toList_inj, hkey, hkey, append_cons_eq_append_cons_iff, Coincides, shifts_iff,
    shifts_iff, Agrees, String.toList_inj, String.toList_inj]

/-- Tasks with the same key agree when the titles have the same number of bars in small
letters. -/
theorem Coincides.agrees {t u : Task} (h : t.Coincides u)
    (hbars : (Text.lower t.title).toList.count '|' = (Text.lower u.title).toList.count '|') :
  t.Agrees u
  := by
  have unequal : ∀ t u : Task, t.Shifts u →
      (Text.lower t.title).toList.count '|' < (Text.lower u.title).toList.count '|' := by
    intro t u h
    obtain ⟨moved, htitle, -⟩ := shifts_iff.mp h
    rw [htitle, List.count_append, List.count_cons_self]
    omega
  rcases h with h | h | h
  · apply h
  · apply absurd (unequal t u h)
    omega
  · apply absurd (unequal u t h)
    omega

end Agenda.Task
