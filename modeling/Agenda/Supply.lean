import Agenda.Calendar.Time

/-!
# Identifiers and times

What new tasks need from outside the list: identifiers that were not used before, and the
time.
-/

namespace Agenda

/-- Where fresh identifiers and the time come from. -/
structure Supply (m : Type → Type) where
  /-- An identifier that was not used before. -/
  fresh : m String
  /-- The universal time. -/
  now : m Calendar.Time

end Agenda
