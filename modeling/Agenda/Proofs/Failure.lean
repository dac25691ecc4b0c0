import Mathlib.Data.List.Forall2

/-!
# Programs that can fail

What a program with an error as its possible result gives, in terms of what its parts give.
-/

namespace Agenda

variable {ε α β : Type}

/-- A sequence succeeds when both of its parts do. -/
theorem bind_eq_ok_iff {x : Except ε α} {f : α → Except ε β} {b : β} :
  x >>= f = .ok b ↔ ∃ a, x = .ok a ∧ f a = .ok b
  := by
  cases x <;> simp [bind, Except.bind]

/-- What is done with a result is a result when there was one. -/
theorem map_eq_ok_iff {x : Except ε α} {f : α → β} {b : β} :
  x.map f = .ok b ↔ ∃ a, x = .ok a ∧ f a = b
  := by
  cases x <;> simp [Except.map]

/-- What is done with a result leaves an error as it is. -/
theorem map_eq_error_iff {x : Except ε α} {f : α → β} {e : ε} :
  x.map f = .error e ↔ x = .error e
  := by
  cases x <;> simp [Except.map]

/-- A list is gone through when every element succeeds. -/
theorem mapM_eq_ok_iff {f : α → Except ε β} {l : List α} {results : List β} :
  l.mapM f = .ok results ↔ List.Forall₂ (fun a b => f a = .ok b) l results
  := by
  induction l generalizing results with
  | nil => cases results <;> simp [pure, Except.pure]
  | cons a l ih =>
    rw [List.mapM_cons, bind_eq_ok_iff]
    constructor
    · rintro ⟨b, hb, hlater⟩
      obtain ⟨bs, hbs, hresults⟩ := bind_eq_ok_iff.mp hlater
      obtain rfl := Except.ok.inj hresults
      exact List.Forall₂.cons hb (ih.mp hbs)
    · intro h
      cases h with
      | cons hb hbs => exact ⟨_, hb, bind_eq_ok_iff.mpr ⟨_, ih.mpr hbs, rfl⟩⟩

/-- The error of a list is that of the first element that fails. -/
theorem mapM_eq_error_iff {f : α → Except ε β} {l : List α} {e : ε} :
  l.mapM f = .error e ↔
    ∃ before a after, l = before ++ a :: after ∧ (∀ b ∈ before, ∃ r, f b = .ok r) ∧ f a = .error e
  := by
  induction l with
  | nil => simp [pure, Except.pure]
  | cons a l ih =>
    have hcons : (a :: l).mapM f = .error e ↔
        f a = .error e ∨ (∃ b, f a = .ok b) ∧ l.mapM f = .error e := by
      rw [List.mapM_cons]
      cases ha : f a with
      | error e' => simp [bind, Except.bind]
      | ok b => cases l.mapM f <;> simp [bind, Except.bind, pure, Except.pure]
    rw [hcons, ih]
    constructor
    · rintro (ha | ⟨hok, before, b, after, rfl, hbefore, hb⟩)
      · exact ⟨[], a, l, rfl, List.forall_mem_nil _, ha⟩
      · use a :: before, b, after
        exact ⟨rfl, List.forall_mem_cons.mpr ⟨hok, hbefore⟩, hb⟩
    · rintro ⟨_ | ⟨c, before⟩, b, after, heq, hbefore, hb⟩
      · obtain ⟨rfl, rfl⟩ := List.cons.inj heq
        left
        exact hb
      · obtain ⟨rfl, rfl⟩ := List.cons.inj heq
        obtain ⟨hok, hbefore⟩ := List.forall_mem_cons.mp hbefore
        right
        exact ⟨hok, before, b, after, rfl, hbefore, hb⟩

end Agenda
