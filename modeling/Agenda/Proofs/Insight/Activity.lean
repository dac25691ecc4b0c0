import Agenda.Insight.Activity
import Agenda.Proofs.Calendar.Written

/-!
# Activity on the last days

The days that are listed follow one another without a gap and end with the given one; there are as
many as are asked for, or as there are in the calendar.  A creation time begins with one written
date at most, whatever else it is, so no task is counted on two days and the counts sum to the
number of tasks that were added on one of the days.
-/

namespace Agenda.Insight

open Calendar (Date)

variable {tasks : List Task} {today : Date} {days : Nat}

/-- A text begins with one date at most. -/
theorem eq_of_startsWith_format {text : String} {d e : Date}
    (h : Text.startsWith text d.format = true) (h' : Text.startsWith text e.format = true) :
  d = e
  := by
  obtain ⟨rest, hrest⟩ := Text.startsWith_iff.mp h
  obtain ⟨rest', hrest'⟩ := Text.startsWith_iff.mp h'
  apply Date.eq_of_format_append (hrest.trans hrest'.symm)

/-- Of two conditions that no task satisfies together, one is satisfied by as many tasks as the
two. -/
theorem countP_or {p q : Task → Bool} (h : ∀ t, p t = true → q t = false) (tasks : List Task) :
  tasks.countP (fun t => p t || q t) = tasks.countP p + tasks.countP q
  := by
  induction tasks with
  | nil => rfl
  | cons t tasks ih =>
    rw [List.countP_cons, List.countP_cons, List.countP_cons, ih]
    cases hp : p t with
    | false =>
      rw [Bool.false_or]
      simp only [Bool.false_eq_true, if_false]
      omega
    | true =>
      rw [h t hp]
      simp only [Bool.or_false, Bool.false_eq_true, if_true, if_false]
      omega

/-- On different dates different tasks are counted. -/
theorem sum_countP_addedOn {dates : List Date} (h : dates.Nodup) (tasks : List Task) :
  (dates.map fun d => tasks.countP (addedOn d)).sum
    = tasks.countP fun t => dates.any (addedOn · t)
  := by
  induction dates with
  | nil =>
    symm
    apply List.countP_eq_zero.mpr
    intro t _
    apply Bool.false_ne_true
  | cons d dates ih =>
    obtain ⟨hd, hdates⟩ := List.nodup_cons.mp h
    have hdisjoint : ∀ t, addedOn d t = true → dates.any (addedOn · t) = false := by
      intro t ht
      rw [List.any_eq_false]
      intro e he hadded
      rw [eq_of_startsWith_format ht hadded] at hd
      exact hd he
    rw [List.map_cons, List.sum_cons, ih hdates, ← countP_or hdisjoint]
    rfl

theorem map_fst_activity (tasks : List Task) (today : Date) (days : Nat) :
  (activity tasks today days).map Prod.fst = today.window days
  := by
  rw [activity, List.map_map]
  apply List.map_id

theorem nodup_window (today : Date) (days : Nat) :
  (today.window days).Nodup
  := by
  apply (today.pairwise_window days).imp
  rintro d _ hbefore rfl
  exact lt_irrefl _ hbefore.number_lt

/-- The last days and their counts of tasks. -/
structure ListsActivity (tasks : List Task) (today : Date) (days : Nat)
    (listed : List (Date × Nat)) : Prop where
  /-- There are as many days as are asked for, or as there are since the calendar began. -/
  length : (listed.length : Int) = min (days : Int) (Date.first.daysUntil today + 1)
  /-- Every day follows the one before it. -/
  consecutive : (listed.map Prod.fst).IsChain fun d e => d.daysUntil e = 1
  increasing : (listed.map Prod.fst).Pairwise Date.IsBefore
  last : (listed.map Prod.fst).getLast? = if days = 0 then none else some today
  /-- On a day the tasks are counted whose creation time begins with the date. -/
  count : ∀ d n, (d, n) ∈ listed →
    n = tasks.countP fun t => Text.startsWith t.createdAt d.format
  /-- No creation time whatsoever begins with two of the dates. -/
  once : ∀ createdAt : String, ∀ d ∈ listed.map Prod.fst, ∀ e ∈ listed.map Prod.fst,
    Text.startsWith createdAt d.format = true → Text.startsWith createdAt e.format = true → d = e
  sum : (listed.map Prod.snd).sum = tasks.countP fun t =>
    (listed.map Prod.fst).any fun d => Text.startsWith t.createdAt d.format
  sum_le : (listed.map Prod.snd).sum ≤ tasks.length

/-- For every list of tasks, every day of the calendar and every number of days. -/
theorem listsActivity (tasks : List Task) (today : Date) (days : Nat) :
  ListsActivity tasks today days (activity tasks today days)
  := by
  have hsum : ((activity tasks today days).map Prod.snd).sum = tasks.countP fun t =>
      (today.window days).any (addedOn · t) := by
    rw [← sum_countP_addedOn (nodup_window today days), activity, List.map_map]
    rfl
  constructor
  case length =>
    rw [activity, List.length_map]
    apply Date.length_window
  case consecutive =>
    rw [map_fst_activity]
    apply Date.isChain_window
  case increasing =>
    rw [map_fst_activity]
    apply Date.pairwise_window
  case last =>
    rw [map_fst_activity]
    cases days with
    | zero => rfl
    | succ days => apply Date.getLast?_window_succ
  case count =>
    intro d n hmem
    obtain ⟨d, -, heq⟩ := List.mem_map.mp hmem
    cases heq
    rfl
  case once =>
    intro createdAt d _ e _
    apply eq_of_startsWith_format
  case sum =>
    rw [hsum, map_fst_activity]
    rfl
  case sum_le =>
    rw [hsum]
    apply List.countP_le_length

end Agenda.Insight
