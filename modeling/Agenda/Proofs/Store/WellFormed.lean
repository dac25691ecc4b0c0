import Mathlib.Data.List.Nodup
import Agenda.Proofs.Calendar.Stamp
import Agenda.Proofs.Store.Backend
import Agenda.Proofs.Text.Front

/-!
# Well-formed tasks

A well-formed task has trimmed texts, of which the title and the category are not empty, and a
completion time just when it is completed, which is not before its creation as a text.  A list
is sound in a world when its tasks are well-formed, when their identifiers are pairwise
distinct and have been issued by the world, and when their creation times have been read from
its clock.  Every change of a sound list gives a list that is sound in the world from which
identifiers and times were taken.
-/

namespace Agenda

/-- What holds of every task that is made and changed by the store. -/
structure Task.IsWellFormed (t : Task) : Prop where
  title_ne : t.title ≠ ""
  title_trim : Text.trim t.title = t.title
  category_ne : t.category ≠ ""
  category_trim : Text.trim t.category = t.category
  due_trim : Text.trim t.due = t.due
  completed_iff : t.completed = true ↔ t.completedAt.isSome = true
  createdAt_le : ∀ time ∈ t.completedAt, t.createdAt ≤ time

/-- The identifier was issued by the world, and the creation time was read from its clock. -/
structure Task.StemsFrom (w : World) (t : Task) : Prop where
  id : ∃ k < w.issued, t.id = w.identifiers k
  createdAt : ∃ k < w.read, t.createdAt = (w.readings k).stamp

/-- A world that never repeats an identifier and whose clock never goes back. -/
structure World.IsRegular (w : World) : Prop where
  identifiers : ∀ i j, w.identifiers i = w.identifiers j → i = j
  isReading : ∀ k, (w.readings k).IsReading
  notAfter : ∀ i j, i ≤ j → (w.readings i).NotAfter (w.readings j)

/-- A list of well-formed tasks with distinct identifiers that stem from the world. -/
structure World.Accounts (w : World) (tasks : List Task) : Prop where
  isWellFormed : ∀ t ∈ tasks, t.IsWellFormed
  stemsFrom : ∀ t ∈ tasks, t.StemsFrom w
  nodup : (tasks.map (·.id)).Nodup

namespace World

variable {w w' : World} {tasks : List Task} {t : Task}

/-- Identifier and creation time of the next new task. -/
def birth (w : World) : Store.Birth :=
  ⟨w.identifiers w.issued, (w.readings w.read).stamp⟩

/-- The world after the birth of a task. -/
def afterBirth (w : World) : World :=
  w.afterFresh.afterNow

/-- The sample tasks that are made next. -/
def samples (w : World) : List Task :=
  let w₁ := w.afterBirth
  let w₂ := w₁.afterBirth
  let w₃ := w₂.afterBirth
  let w₄ := w₃.afterBirth
  Store.samples w.birth w₁.birth w₂.birth w₃.birth (w₄.readings w₄.read).stamp

/-- The world after the sample tasks are made. -/
def afterSamples (w : World) : World :=
  w.afterBirth.afterBirth.afterBirth.afterBirth.afterNow

theorem IsRegular.of_continues (hw : w.IsRegular) (h : w.Continues w') :
  w'.IsRegular
  := by
  constructor
  · rw [h.identifiers]
    apply hw.identifiers
  · rw [h.readings]
    apply hw.isReading
  · rw [h.readings]
    apply hw.notAfter

theorem continues_afterBirth (w : World) :
  w.Continues w.afterBirth
  := w.continues_afterFresh.trans w.afterFresh.continues_afterNow

theorem continues_afterSamples (w : World) :
  w.Continues w.afterSamples
  := by
  have htwice := fun w : World => w.continues_afterBirth.trans w.afterBirth.continues_afterBirth
  exact (htwice w).trans ((htwice _).trans (World.continues_afterNow _))

/-! ### Sound lists -/

namespace Accounts

theorem nil (w : World) :
  w.Accounts []
  := by
  constructor
  · apply List.forall_mem_nil
  · apply List.forall_mem_nil
  · apply List.nodup_nil

/-- A list remains sound when the world goes on. -/
theorem of_continues (h : w.Accounts tasks) (hw : w.Continues w') :
  w'.Accounts tasks
  := by
  constructor
  · apply h.isWellFormed
  · intro t ht
    obtain ⟨⟨i, hi, hid⟩, j, hj, hcreated⟩ := h.stemsFrom t ht
    constructor
    · use i, lt_of_lt_of_le hi hw.issued
      rw [hw.identifiers, hid]
    · use j, lt_of_lt_of_le hj hw.read
      rw [hw.readings, hcreated]
  · apply h.nodup

theorem of_sublist {left : List Task} (h : w.Accounts tasks) (hleft : left.Sublist tasks) :
  w.Accounts left
  := by
  constructor
  · intro t ht
    apply h.isWellFormed t (hleft.subset ht)
  · intro t ht
    apply h.stemsFrom t (hleft.subset ht)
  · apply h.nodup.sublist (hleft.map _)

theorem of_perm {others : List Task} (h : w.Accounts tasks) (hperm : others.Perm tasks) :
  w.Accounts others
  := by
  constructor
  · intro t ht
    apply h.isWellFormed t (hperm.mem_iff.mp ht)
  · intro t ht
    apply h.stemsFrom t (hperm.mem_iff.mp ht)
  · apply (hperm.map _).nodup_iff.mpr h.nodup

/-- A well-formed task with the next identifier and the next time can be put in front. -/
theorem cons (h : w.Accounts tasks) (hw : w.IsRegular) (ht : t.IsWellFormed)
    (hid : t.id = w.birth.id) (hcreated : t.createdAt = w.birth.time) :
  w.afterBirth.Accounts (t :: tasks)
  := by
  have hlater := h.of_continues w.continues_afterBirth
  constructor
  · apply List.forall_mem_cons.mpr ⟨ht, hlater.isWellFormed⟩
  · intro u hu
    obtain rfl | hu := List.mem_cons.mp hu
    · exact ⟨⟨w.issued, Nat.lt_succ_self _, hid⟩, w.read, Nat.lt_succ_self _, hcreated⟩
    · apply hlater.stemsFrom u hu
  · rw [List.map_cons, List.nodup_cons]
    refine ⟨?_, h.nodup⟩
    -- all identifiers in the list were issued before
    intro hmem
    obtain ⟨u, hu, heq⟩ := List.mem_map.mp hmem
    obtain ⟨k, hk, hissued⟩ := (h.stemsFrom u hu).id
    have hsame : k = w.issued := by
      apply hw.identifiers
      rw [← hissued, heq, hid]
      rfl
    omega

/-- A task can be marked with the next time, or as open. -/
theorem set_mark (h : w.Accounts tasks) (hw : w.IsRegular) {i : Nat} (ht : tasks[i]? = some t)
    {completedAt : Option String}
    (htime : ∀ time ∈ completedAt, time = (w.readings w.read).stamp) :
  w.Accounts (tasks.set i (t.mark completedAt))
  := by
  have hmem := List.mem_of_getElem? ht
  have hmarked : ∀ u ∈ tasks.set i (t.mark completedAt), u ∈ tasks ∨ u = t.mark completedAt := by
    intro u hu
    apply List.mem_or_eq_of_mem_set hu
  constructor
  · intro u hu
    obtain hu | rfl := hmarked u hu
    · apply h.isWellFormed u hu
    · have hwell := h.isWellFormed t hmem
      refine ⟨hwell.title_ne, hwell.title_trim, hwell.category_ne, hwell.category_trim,
        hwell.due_trim, Iff.rfl, ?_⟩
      intro time hmark
      obtain ⟨k, hk, hcreated⟩ := (h.stemsFrom t hmem).createdAt
      have hcreatedAt : (t.mark completedAt).createdAt = (w.readings k).stamp := hcreated
      rw [hcreatedAt, htime time hmark]
      apply Calendar.Time.stamp_le (hw.isReading k) (hw.isReading w.read)
      apply hw.notAfter k w.read hk.le
  · intro u hu
    obtain hu | rfl := hmarked u hu
    · apply h.stemsFrom u hu
    · obtain ⟨hid, hcreated⟩ := h.stemsFrom t hmem
      exact ⟨hid, hcreated⟩
  · have hids : (tasks.set i (t.mark completedAt)).map (·.id) = tasks.map (·.id) := by
      obtain ⟨hi, rfl⟩ := List.getElem?_eq_some_iff.mp ht
      have hi' : i < (tasks.map (·.id)).length := by
        rw [List.length_map]
        exact hi
      have hid : (tasks[i].mark completedAt).id = (tasks.map (·.id))[i] := by
        rw [List.getElem_map]
        rfl
      rw [List.map_set, hid, List.set_getElem_self]
    rw [hids]
    apply h.nodup

end Accounts

end World

/-! ### Changes -/

namespace Store

/-- The category has a text that is trimmed. -/
structure IsCategory (category : String) : Prop where
  ne_empty : category ≠ ""
  trim_eq : Text.trim category = category

open World (Accounts)

variable {w : World} {tasks left : List Task} {defaultCategory : String}

/-- A new task with trimmed texts can be put in front. -/
theorem accounts_newTask (hw : w.IsRegular) (h : w.Accounts tasks) {title category due : String}
    (htitle : title ≠ "") (htitle' : Text.trim title = title) (hcategory : IsCategory category)
    (hdue : Text.trim due = due) :
  w.afterBirth.Accounts (newTask w.birth title category due :: tasks)
  := by
  have hwell : (newTask w.birth title category due).IsWellFormed := by
    refine ⟨htitle, htitle', hcategory.ne_empty, hcategory.trim_eq, hdue, ?_, ?_⟩
    · simp [newTask]
    · simp [newTask]
  apply h.cons hw hwell rfl rfl

theorem accounts_create (hw : w.IsRegular) (h : w.Accounts tasks)
    (hcategory : IsCategory defaultCategory) {draft : Draft} {answer : Task}
    (hcreate : create defaultCategory draft w.birth tasks = .ok (answer, left)) :
  w.afterBirth.Accounts left
  := by
  obtain ⟨make, hcreation, hmake⟩ := map_eq_ok_iff.mp hcreate
  simp only [creation] at hcreation
  split at hcreation
  · contradiction
  · next htitle =>
    obtain rfl := Except.ok.inj hcreation
    obtain ⟨-, rfl⟩ := Prod.mk.inj hmake
    apply accounts_newTask hw h
    · simpa using htitle
    · apply Text.trim_trim
    · cases hgiven : (draft.category.map Text.trim).filter (!·.isEmpty) with
      | none => apply hcategory
      | some category =>
        obtain ⟨hsome, hne⟩ := Option.filter_eq_some_iff.mp hgiven
        obtain ⟨text, -, rfl⟩ := Option.map_eq_some_iff.mp hsome
        constructor
        · simpa using hne
        · apply Text.trim_trim
    · apply Text.trim_trim

theorem accounts_mark (hw : w.IsRegular) (h : w.Accounts tasks) {id : String} {answer : Task}
    {completedAt : Option String}
    (htime : ∀ time ∈ completedAt, time = (w.readings w.read).stamp)
    (hmark : mark id completedAt tasks = .ok (answer, left)) :
  w.Accounts left
  := by
  obtain ⟨make, hmarking, hmake⟩ := map_eq_ok_iff.mp hmark
  obtain ⟨i, -, hi⟩ := bind_eq_ok_iff.mp hmarking
  split at hi
  · contradiction
  · next t ht =>
    obtain rfl := Except.ok.inj hi
    obtain ⟨-, rfl⟩ := Prod.mk.inj hmake
    apply h.set_mark hw ht htime

theorem accounts_delete (h : w.Accounts tasks) {id : String} {answer : Task}
    (hdelete : delete id tasks = .ok (answer, left)) :
  w.Accounts left
  := by
  obtain ⟨i, -, hi⟩ := bind_eq_ok_iff.mp hdelete
  split at hi
  · contradiction
  · obtain ⟨-, rfl⟩ := Prod.mk.inj (Except.ok.inj hi)
    apply h.of_sublist (List.eraseIdx_sublist tasks i)

theorem separate_sublist (seen : List String) (tasks : List Task) :
  (separate seen tasks).1.Sublist tasks
  := by
  induction tasks generalizing seen with
  | nil => apply List.Sublist.refl
  | cons t rest ih =>
    rw [separate]
    split
    · apply (ih seen).cons
    · apply (ih _).cons_cons

/-- A cleaning has nothing to fill in a list of well-formed tasks. -/
theorem accounts_clean (h : w.Accounts tasks) {answer : List String}
    (hclean : clean defaultCategory tasks = .ok (answer, left)) :
  w.Accounts left
  := by
  have hfill : tasks.map (fill defaultCategory) = tasks.map id := by
    apply List.map_congr_left
    intro t ht
    have hne := (h.isWellFormed t ht).category_ne
    rw [fill, if_neg (by simpa using hne)]
    rfl
  obtain ⟨-, rfl⟩ := Prod.mk.inj (Except.ok.inj hclean)
  rw [hfill, List.map_id]
  apply h.of_sublist (separate_sublist [] tasks)

/-- The samples take four births and then one more time. -/
theorem accounts_samples (hw : w.IsRegular) (h : w.Accounts tasks) :
  w.afterSamples.Accounts (w.samples ++ tasks)
  := by
  let w₁ := w.afterBirth
  let w₂ := w₁.afterBirth
  let w₃ := w₂.afterBirth
  let w₄ := w₃.afterBirth
  have hw₁ : w₁.IsRegular := hw.of_continues w.continues_afterBirth
  have hw₂ : w₂.IsRegular := hw₁.of_continues w₁.continues_afterBirth
  have hw₃ : w₃.IsRegular := hw₂.of_continues w₂.continues_afterBirth
  have hw₄ : w₄.IsRegular := hw₃.of_continues w₃.continues_afterBirth
  have hsample : ∀ {w : World} {tasks : List Task} (title category : String), w.IsRegular →
      w.Accounts tasks → title ≠ "" ∧ Text.trim title = title ∧ category ≠ ""
        ∧ Text.trim category = category →
      w.afterBirth.Accounts (newTask w.birth title category :: tasks) := by
    rintro w tasks title category hw h ⟨htitle, htitle', hcategory, hcategory'⟩
    apply accounts_newTask hw h htitle htitle' ⟨hcategory, hcategory'⟩ rfl
  have h₁ := hsample "Finish analytics report" "Work" hw h (by decide)
  have h₂ := hsample "Study SQL basics" "Study" hw₁ h₁ (by decide)
  have h₃ := hsample "Buy groceries" "Errands" hw₂ h₂ (by decide)
  have h₄ := hsample "Workout" "Health" hw₃ h₃ (by decide)
  -- the sample that was born third is the second one from the front
  have hthird : (newTask w₃.birth "Workout" "Health" :: newTask w₂.birth "Buy groceries" "Errands"
      :: newTask w₁.birth "Study SQL basics" "Study"
      :: newTask w.birth "Finish analytics report" "Work" :: tasks)[1]?
      = some (newTask w₂.birth "Buy groceries" "Errands") := rfl
  have htime : ∀ time ∈ some (w₄.readings w₄.read).stamp, time = (w₄.readings w₄.read).stamp := by
    rintro time ⟨⟩
    rfl
  apply ((h₄.set_mark hw₄ hthird htime).of_continues w₄.continues_afterNow).of_perm
  apply List.Perm.append_right tasks (List.reverse_perm [_, _, _, _])

end Store

end Agenda
