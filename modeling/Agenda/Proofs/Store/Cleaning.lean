import Agenda.Proofs.Store.Originals
import Agenda.Proofs.Task.DuplicateKey
import Agenda.Store.Change

/-!
# Cleaning a list

A cleaning keeps the first task of every key: `separate` splits a list into the originals and the
repetitions.  A task is removed only as a duplicate of one that is kept before it.  The two agree on
title and category in every list of which only tasks that agree have the same key, and in no other.
-/

namespace Agenda.Store

/-! ### Separation -/

/-- A task at the end is removed when its key was seen or is that of a task before it. -/
theorem separate_concat (seen : List String) (tasks : List Task) (t : Task) :
  separate seen (tasks ++ [t])
    = ((separate seen tasks).1
        ++ (if t.duplicateKey ∈ seen ++ tasks.map Task.duplicateKey then [] else [t]),
      (separate seen tasks).2
        ++ if t.duplicateKey ∈ seen ++ tasks.map Task.duplicateKey then [t] else [])
  := by
  induction tasks generalizing seen with
  | nil =>
    simp only [List.nil_append, separate, List.contains_iff_mem, List.map_nil, List.append_nil]
    split <;> rfl
  | cons u tasks ih =>
    rw [List.cons_append, separate, separate]
    by_cases hu : u.duplicateKey ∈ seen
    · have hmem : t.duplicateKey ∈ seen ++ (u :: tasks).map Task.duplicateKey
          ↔ t.duplicateKey ∈ seen ++ tasks.map Task.duplicateKey := by
        simp only [List.map_cons, List.mem_append, List.mem_cons]
        grind
      rw [if_pos (List.contains_iff_mem.mpr hu), if_pos (List.contains_iff_mem.mpr hu), ih]
      simp only [hmem, List.cons_append]
    · have hmem : t.duplicateKey ∈ seen ++ (u :: tasks).map Task.duplicateKey
          ↔ t.duplicateKey ∈ u.duplicateKey :: seen ++ tasks.map Task.duplicateKey := by
        simp only [List.map_cons, List.mem_append, List.mem_cons]
        grind
      rw [if_neg (List.contains_iff_mem.not.mpr hu), if_neg (List.contains_iff_mem.not.mpr hu), ih]
      simp only [hmem, List.cons_append]

theorem separate_eq (tasks : List Task) :
  separate [] tasks = (originals tasks, repetitions tasks)
  := by
  induction tasks using List.reverseRecOn with
  | nil => rfl
  | append_singleton tasks t ih =>
    rw [separate_concat, ih, originals_concat, repetitions_concat]
    simp only [List.nil_append]

/-! ### Removal -/

/-- A cleaning with the default leaves the tasks at certain positions of the filled list, in
order, and every task at another position is related to a task at an earlier position that is
left. -/
def RemovesOnly (related : Task → Task → Prop) (defaultCategory : String) (tasks : List Task) :
    Prop :=
  let filled := tasks.map (fill defaultCategory)
  ∃ (log : List String) (left : List Task) (rows : List Nat),
    clean defaultCategory tasks = .ok (log, left)
    ∧ rows.Pairwise (· < ·) ∧ left.map some = rows.map (filled[·]?)
    ∧ ∀ i ∉ rows, ∀ u, filled[i]? = some u →
      ∃ j ∈ rows, j < i ∧ ∃ t, filled[j]? = some t ∧ related t u

theorem removesOnly_coincides (defaultCategory : String) (tasks : List Task) :
  RemovesOnly Task.Coincides defaultCategory tasks
  := by
  let filled := tasks.map (fill defaultCategory)
  let keys := filled.map Task.duplicateKey
  refine ⟨_, _, rowsAt (IsNew keys) filled, rfl, pairwise_rowsAt, ?_, ?_⟩
  · rw [separate_eq]
    apply map_some_tasksAt
  · intro i hi u hu
    obtain ⟨j, hle, hnew, hkey⟩ := exists_isNew keys i
    have hkey' : (filled[j]?).map Task.duplicateKey = some u.duplicateKey := by
      rw [← List.getElem?_map, hkey, List.getElem?_map, hu]
      rfl
    obtain ⟨t, ht, heq⟩ := Option.map_eq_some_iff.mp hkey'
    have hrow : j ∈ rowsAt (IsNew keys) filled :=
      mem_rowsAt.mpr ⟨(List.getElem?_eq_some_iff.mp ht).1, hnew⟩
    use j, hrow
    constructor
    · apply lt_of_le_of_ne hle
      rintro rfl
      apply hi hrow
    · use t, ht
      apply Task.duplicateKey_eq_iff.mp heq

/-- A cleaning removes only tasks that agree with one that is left just when the filled list is
unambiguous. -/
theorem removesOnly_agrees_iff (defaultCategory : String) (tasks : List Task) :
  RemovesOnly Task.Agrees defaultCategory tasks ↔
    Task.AreUnambiguous (tasks.map (fill defaultCategory))
  := by
  constructor
  · rintro ⟨log, left, rows, hclean, -, hrows, hremoved⟩ t ht u hu hcoincides
    -- both tasks agree with one that is left, and the keys of these are distinct
    have hleft : ∀ j ∈ rows, ∀ v, (tasks.map (fill defaultCategory))[j]? = some v → v ∈ left := by
      intro j hj v hv
      have hmem : some v ∈ left.map some := by
        rw [hrows, ← hv]
        apply List.mem_map_of_mem hj
      simpa using hmem
    have hagrees : ∀ v ∈ tasks.map (fill defaultCategory), ∃ kept ∈ left, kept.Agrees v := by
      intro v hv
      obtain ⟨i, hi⟩ := List.mem_iff_getElem?.mp hv
      by_cases hrow : i ∈ rows
      · exact ⟨v, hleft i hrow v hi, Task.Agrees.refl v⟩
      · obtain ⟨j, hj, -, kept, hkept, hagrees⟩ := hremoved i hrow v hi
        exact ⟨kept, hleft j hj kept hkept, hagrees⟩
    have hnodup : (left.map Task.duplicateKey).Nodup := by
      obtain ⟨-, rfl⟩ := Prod.mk.inj (Except.ok.inj hclean)
      rw [separate_eq]
      apply nodup_originals
    obtain ⟨v, hv, hvt⟩ := hagrees t ht
    obtain ⟨v', hv', hvu⟩ := hagrees u hu
    have hkey : v.duplicateKey = v'.duplicateKey := by
      rw [Task.duplicateKey_eq_iff.mpr (.inl hvt), Task.duplicateKey_eq_iff.mpr (.inl hvu),
        Task.duplicateKey_eq_iff.mpr hcoincides]
    obtain rfl := List.inj_on_of_nodup_map hnodup hv hv' hkey
    exact hvt.symm.trans hvu
  · intro h
    obtain ⟨log, left, rows, hclean, hpairwise, hrows, hremoved⟩ :=
      removesOnly_coincides defaultCategory tasks
    refine ⟨log, left, rows, hclean, hpairwise, hrows, ?_⟩
    intro i hi u hu
    obtain ⟨j, hj, hlt, t, ht, hcoincides⟩ := hremoved i hi u hu
    refine ⟨j, hj, hlt, t, ht, ?_⟩
    apply h t (List.mem_of_getElem? ht) u (List.mem_of_getElem? hu) hcoincides

end Agenda.Store
