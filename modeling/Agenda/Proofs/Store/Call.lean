import Agenda.Store.Action
import Agenda.System

/-!
# Calls

The changes of a store as values, so that one can speak of all sequences of changes.
`performAll` makes the calls of a list one after the other.  `performSteps` also loads the
store anew where the list says so.
-/

namespace Agenda.Store

/-- A change of the store with its arguments. -/
inductive Call where
  | add (draft : Draft)
  | setCompleted (id : String) (completed : Bool)
  | remove (id : String)
  | removeAll
  | addSamples
  | tidy
deriving DecidableEq, Repr

/-- The answer to a call. -/
inductive Answer where
  | task (answer : Except Error Task)
  | count (answer : Except Error Nat)
  | lines (answer : Except Error (List String))

/-- A call, or loading the store anew from its storage. -/
inductive Step where
  | call (c : Call)
  | reload
deriving DecidableEq, Repr

/-- The call that a step makes. -/
def Step.call? : Step → Option Call
  | .call c => some c
  | .reload => none

section

variable {m : Type → Type} [Monad m] (supply : Supply m) (storage : Storage m)

/-- The answer to a call and the store after it. -/
def Call.perform (s : Store) : Call → m (Answer × Store)
  | .add draft => do
    let (answer, s) ← s.add supply storage draft
    return (.task answer, s)
  | .setCompleted id completed => do
    let (answer, s) ← s.setCompleted supply storage id completed
    return (.task answer, s)
  | .remove id => do
    let (answer, s) ← s.remove storage id
    return (.task answer, s)
  | .removeAll => do
    let (answer, s) ← s.removeAll storage
    return (.count answer, s)
  | .addSamples => do
    let (answer, s) ← s.addSamples supply storage
    return (.count answer, s)
  | .tidy => do
    let (answer, s) ← s.tidy storage
    return (.lines answer, s)

/-- The answers to the calls and the store after them. -/
def performAll : List Call → Store → m (List Answer × Store)
  | [], s => return ([], s)
  | call :: calls, s => do
    let (answer, s) ← call.perform supply storage s
    let (answers, s) ← performAll calls s
    return (answer :: answers, s)

/-- The answers to the calls among the steps and the store after them.  The steps end with an
error when the store cannot be loaded. -/
def performSteps : List Step → Store → m (Except Error (List Answer × Store))
  | [], s => return .ok ([], s)
  | .reload :: steps, s => do
    match ← load storage s.options with
    | .error e => return .error e
    | .ok s => performSteps steps s
  | .call call :: steps, s => do
    let (answer, s) ← call.perform supply storage s
    return (← performSteps steps s).map fun (answers, s) => (answer :: answers, s)

end

end Agenda.Store
