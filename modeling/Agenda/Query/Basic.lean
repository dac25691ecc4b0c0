/-!
# Queries

A statement selects all tasks, or those that satisfy a condition: a first predicate and
further ones, each joined to what precedes it by `and` or `or`.  There is no precedence
between the two connectives.

`Statement.print` writes a statement in its canonical form.  A value is preceded and
followed by a single and a double quote, in this order.  Reading a value drops one such
pair at either end and so is left with the value itself.
-/

namespace Agenda.Query

/-- How a predicate is joined to the predicates before it. -/
inductive Connective where
  | and
  | or
deriving DecidableEq, Repr

/-- How a predicate compares a field with its value. -/
inductive Operator where
  | equals
  | contains
deriving DecidableEq, Repr

/-- A comparison of the field of a task with a value. -/
structure Predicate where
  field : String
  operator : Operator
  value : String
deriving DecidableEq, Repr

/-- A first predicate and the predicates joined to it, in order. -/
structure Condition where
  first : Predicate
  rest : List (Connective × Predicate)
deriving DecidableEq, Repr

/-- The selection of the tasks that satisfy the condition, or of all tasks. -/
structure Statement where
  condition : Option Condition
deriving DecidableEq, Repr

/-- Why a text is not a statement. -/
inductive Error where
  /-- The text does not have the form of a statement. -/
  | unsupportedStatement (query : String)
  /-- A part of the condition is not a predicate. -/
  | unsupportedClause (segment : String)
deriving DecidableEq, Repr

/-- The wording of an error. -/
def Error.message : Error → String
  | .unsupportedStatement query => "Only: SELECT * FROM tasks [WHERE ...] supported, got: " ++ query
  | .unsupportedClause segment => "Unsupported where clause: " ++ segment

/-! ### The canonical form -/

/-- The connective as a word between blanks. -/
def Connective.print : Connective → String
  | .and => " AND "
  | .or => " OR "

/-- The operator between blanks. -/
def Operator.print : Operator → String
  | .equals => " = "
  | .contains => " LIKE "

/-- Field, operator and value, with a single and then a double quote both before and after
the value. -/
def Predicate.print (p : Predicate) : String :=
  p.field ++ p.operator.print ++ "'\"" ++ p.value ++ "'\""

/-- The predicates with their connectives between them. -/
def Condition.print (c : Condition) : String :=
  c.first.print ++ String.join (c.rest.map fun (joint, p) => joint.print ++ p.print)

/-- The statement in its canonical form. -/
def Statement.print (s : Statement) : String :=
  match s.condition with
  | none => "SELECT * FROM tasks"
  | some c => "SELECT * FROM tasks WHERE " ++ c.print

end Agenda.Query
