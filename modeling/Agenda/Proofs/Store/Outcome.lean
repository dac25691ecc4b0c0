import Agenda.Proofs.Store.Soundness

/-!
# Outcomes of calls

A call that is not refused takes identifiers and times from the world, makes a new list and then
writes it.  `Call.left` is that list, or the error because of which nothing is taken or written, and
`Call.spent` is the world from which has been taken what the call needs.  Both are the same on every
storage.  What a call does is therefore one of three things: it is refused, the new list is written,
or it cannot be written.
-/

namespace Agenda

namespace Store

/-! ### Errors of answers -/

/-- The error because of which there is no result. -/
def error? {α : Type} : Except Error α → Option Error
  | .ok _ => none
  | .error e => some e

/-- The error that is the answer to a call that fails. -/
def Answer.error? : Answer → Option Error
  | .task answer => Store.error? answer
  | .count answer => Store.error? answer
  | .lines answer => Store.error? answer

/-! ### What a call is to leave -/

/-- The list that the call makes from that of the store, or the reason why there is none. -/
def Call.left (s : Store) (w : World) : Call → Except Error (List Task)
  | .add draft => (create s.options.defaultCategory draft w.birth s.tasks).map Prod.snd
  | .setCompleted id completed =>
    (mark id (if completed then some (w.readings w.read).stamp else none) s.tasks).map Prod.snd
  | .remove id => (delete id s.tasks).map Prod.snd
  | .removeAll => (clear s.tasks).map Prod.snd
  | .addSamples => (prepend w.samples s.tasks).map Prod.snd
  | .tidy => (clean s.options.defaultCategory s.tasks).map Prod.snd

/-- How many identifiers the call takes. -/
def Call.births : Call → Nat
  | .add _ => 1
  | .addSamples => 4
  | .setCompleted _ _ | .remove _ | .removeAll | .tidy => 0

/-- How often the call reads the clock. -/
def Call.readings : Call → Nat
  | .add _ => 1
  | .setCompleted _ completed => if completed then 1 else 0
  | .addSamples => 5
  | .remove _ | .removeAll | .tidy => 0

/-- The world after the call has taken from it what it needs when it is not refused. -/
def Call.spent (w : World) (call : Call) : World :=
  { w with issued := w.issued + call.births, read := w.read + call.readings }

theorem continues_spent (call : Call) (w : World) :
  w.Continues (call.spent w)
  := ⟨rfl, rfl, Nat.le_add_right _ _, Nat.le_add_right _ _⟩

/-- What a call leaves does not depend on the disk. -/
theorem left_of_disk (call : Call) (s : Store) (w : World) (disk : Storage.Disk) :
  call.left s { w with disk } = call.left s w
  := by
  cases call <;> rfl

theorem error_of_position {tasks : List Task} {id : String} {e : Error}
    (h : position tasks id = .error e) :
  e = .notFound id
  := by
  rw [position] at h
  split at h
  · contradiction
  · exact (Except.error.inj h).symm

/-- What is done at the position of an identifier fails only because there is none. -/
theorem error_of_atPosition {β : Type} {made : Nat → Task → β} {id : String} {tasks : List Task}
    {e : Error} (h : (do
      let i ← position tasks id
      match tasks[i]? with
      | none => .error (.notFound id)
      | some t => .ok (made i t)) = .error e) :
  e = .notFound id
  := by
  cases hposition : position tasks id with
  | error e' =>
    simp only [hposition, bind, Except.bind] at h
    obtain rfl := Except.error.inj h
    apply error_of_position hposition
  | ok i =>
    simp only [hposition, bind, Except.bind] at h
    split at h
    · exact (Except.error.inj h).symm
    · contradiction

theorem error_of_mark {id : String} {time : Option String} {tasks : List Task} {e : Error}
    (h : mark id time tasks = .error e) :
  e = .notFound id
  := by
  have hmarking : marking id tasks = .error e := map_eq_error_iff.mp h
  apply error_of_atPosition hmarking

theorem error_of_delete {id : String} {tasks : List Task} {e : Error}
    (h : delete id tasks = .error e) :
  e = .notFound id
  := error_of_atPosition h

theorem error_of_create {category : String} {draft : Draft} {birth : Birth} {tasks : List Task}
    {e : Error} (h : create category draft birth tasks = .error e) :
  e = .emptyTitle
  := by
  have hcreation : creation category draft tasks = .error e := map_eq_error_iff.mp h
  rw [creation] at hcreation
  split at hcreation
  · exact (Except.error.inj hcreation).symm
  · cases hcreation

/-- A task with a title that is not blank is put in front. -/
theorem create_of_ne (draft : Draft) (h : Text.trim draft.title ≠ "") (category : String)
    (birth : Birth) (tasks : List Task) :
  ∃ t, create category draft birth tasks = .ok (t, t :: tasks) ∧ t.title = Text.trim draft.title
    ∧ t.due = Text.trim (draft.due.getD "")
  := by
  rw [create, Request.taking, creation]
  simp only [String.isEmpty_iff, if_neg h]
  exact ⟨_, rfl, rfl, rfl⟩

/-- A call is refused only because a title is blank or an identifier unknown. -/
theorem error_of_left {call : Call} {s : Store} {w : World} {e : Error}
    (h : call.left s w = .error e) :
  e = .emptyTitle ∨ ∃ id, e = .notFound id
  := by
  cases call with
  | add draft =>
    rw [Call.left, map_eq_error_iff] at h
    left
    apply error_of_create h
  | setCompleted id completed =>
    rw [Call.left, map_eq_error_iff] at h
    right
    exact ⟨id, error_of_mark h⟩
  | remove id =>
    rw [Call.left, map_eq_error_iff] at h
    right
    exact ⟨id, error_of_delete h⟩
  | removeAll =>
    rw [Call.left, map_eq_error_iff] at h
    contradiction
  | addSamples =>
    rw [Call.left, map_eq_error_iff] at h
    contradiction
  | tidy =>
    rw [Call.left, map_eq_error_iff] at h
    contradiction

/-! ### What a call does -/

namespace Backend

variable {m : Type → Type} [Monad m] {σ : Type} {B : Backend m σ} {s : Store} {state spent : σ}

/-- How a call ends when it is to leave a list: it is refused when there is no list, and nothing
has been taken then, and otherwise the list is that of the store and has been written, or writing
it has failed. -/
inductive Ends (B : Backend m σ) (s : Store) (state spent : σ) :
    Except Error (List Task) → (Answer × Store) × σ → Prop
  | refused {answer : Answer} {e : Error} (h : answer.error? = some e) :
    B.Ends s state spent (.error e) ((answer, s), state)
  | saved {answer : Answer} {tasks : List Task} {state' : σ} (h : answer.error? = none)
      (hsave : B.run (save B.storage { s with tasks }) spent = (.ok (), state')) :
    B.Ends s state spent (.ok tasks) ((answer, { s with tasks }), state')
  | unsaved {answer : Answer} {tasks : List Task} {state' : σ} {fault : Storage.Fault}
      (h : answer.error? = some (.storage fault))
      (hsave : B.run (save B.storage { s with tasks }) spent = (.error fault, state')) :
    B.Ends s state spent (.ok tasks) ((answer, { s with tasks }), state')

/-- A change is refused, or the list that it makes is that of the store and has been written, or
writing it has failed. -/
theorem apply_cases {α : Type} (B : Backend m σ) (s : Store) (change : Change α) (state : σ) :
  (∃ e, change s.tasks = .error e
    ∧ B.run (s.apply B.storage change) state = ((.error e, s), state))
  ∨ ∃ answer tasks, change s.tasks = .ok (answer, tasks)
    ∧ ((∃ state', B.run (save B.storage { s with tasks }) state = (.ok (), state')
        ∧ B.run (s.apply B.storage change) state = ((.ok answer, { s with tasks }), state'))
      ∨ ∃ fault state', B.run (save B.storage { s with tasks }) state = (.error fault, state')
        ∧ B.run (s.apply B.storage change) state
          = ((.error (.storage fault), { s with tasks }), state'))
  := by
  rw [apply]
  cases hchange : change s.tasks with
  | error e =>
    left
    exact ⟨e, rfl, B.run_pure _ _⟩
  | ok result =>
    right
    refine ⟨result.1, result.2, rfl, ?_⟩
    rcases hsave : B.run (save B.storage { s with tasks := result.2 }) state
      with ⟨fault | _, state'⟩
    · right
      refine ⟨fault, state', rfl, ?_⟩
      simp only [B.run_bind, hsave, B.run_pure]
    · left
      refine ⟨state', rfl, ?_⟩
      simp only [B.run_bind, hsave, B.run_pure]

/-- The same for an action that applies a change. -/
theorem Applies.cases {α : Type} {act : m (Except Error α × Store)} {change : Change α}
    (h : B.Applies s act change state spent) :
  (∃ e, change s.tasks = .error e ∧ B.run act state = ((.error e, s), state))
  ∨ ∃ answer tasks, change s.tasks = .ok (answer, tasks)
    ∧ ((∃ state', B.run (save B.storage { s with tasks }) spent = (.ok (), state')
        ∧ B.run act state = ((.ok answer, { s with tasks }), state'))
      ∨ ∃ fault state', B.run (save B.storage { s with tasks }) spent = (.error fault, state')
        ∧ B.run act state = ((.error (.storage fault), { s with tasks }), state'))
  := by
  cases hchange : change s.tasks with
  | error e =>
    left
    rw [Applies, hchange] at h
    exact ⟨e, rfl, h⟩
  | ok result =>
    rw [h.run_eq hchange]
    obtain ⟨e, herror, -⟩ | hmade := B.apply_cases s change spent
    · rw [hchange] at herror
      cases herror
    · right
      rw [hchange] at hmade
      exact hmade

/-- An action ends as the change that it applies demands. -/
theorem Applies.ends {α : Type} {act : m (Except Error α × Store)} {change : Change α}
    (h : B.Applies s act change state spent) {wrap : Except Error α → Answer}
    (hwrap : ∀ answer, (wrap answer).error? = error? answer) :
  B.Ends s state spent ((change s.tasks).map Prod.snd)
    (B.run (do let (answer, s) ← act; return (wrap answer, s)) state)
  := by
  simp only [B.run_bind, B.run_pure]
  obtain ⟨e, hchange, hrun⟩ | ⟨answer, tasks, hchange,
    ⟨state', hsave, hrun⟩ | ⟨fault, state', hsave, hrun⟩⟩ := h.cases
  · rw [hchange, hrun]
    apply Ends.refused (hwrap _)
  · rw [hchange, hrun]
    apply Ends.saved (hwrap _) hsave
  · rw [hchange, hrun]
    apply Ends.unsaved (hwrap _) hsave

theorem ends_perform (B : Backend m σ) (call : Call) (s : Store) (state : σ) :
  ∃ spent, B.world spent = call.spent (B.world state)
    ∧ B.Ends s state spent (call.left s (B.world state))
      (B.run (call.perform B.supply B.storage s) state)
  := by
  cases call with
  | add draft =>
    obtain ⟨spent, happlies, hworld, -⟩ := B.applies_add s draft state
    exact ⟨spent, hworld, happlies.ends fun _ => rfl⟩
  | setCompleted id completed =>
    obtain ⟨spent, happlies, hworld, -⟩ := B.applies_setCompleted s id completed state
    refine ⟨spent, ?_, happlies.ends fun _ => rfl⟩
    rw [hworld]
    cases completed <;> rfl
  | remove id => exact ⟨state, rfl, (B.applies_apply s (delete id) state).ends fun _ => rfl⟩
  | removeAll => exact ⟨state, rfl, (B.applies_apply s clear state).ends fun _ => rfl⟩
  | addSamples =>
    obtain ⟨spent, happlies, hworld, -⟩ := B.applies_addSamples s state
    refine ⟨spent, ?_, happlies.ends fun _ => rfl⟩
    rw [hworld]
    simp only [World.afterSamples, World.afterBirth, World.afterNow, World.afterFresh,
      Nat.add_assoc]
    rfl
  | tidy =>
    have happlies := B.applies_apply s (clean s.options.defaultCategory) state
    exact ⟨state, rfl, happlies.ends fun _ => rfl⟩

end Backend

end Store

end Agenda
