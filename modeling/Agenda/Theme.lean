import Agenda.Storage.Basic
import Agenda.Text.Blank

/-!
# Themes

The theme decides with which character the bars of charts are drawn.  It is kept in the
storage under a key of its own.
-/

namespace Agenda

open Storage (Fault)

/-- How charts are drawn. -/
inductive Theme where
  | dark
  | light
deriving DecidableEq, Repr

namespace Theme

/-- The name of the theme. -/
def name : Theme → String
  | .dark => "dark"
  | .light => "light"

/-- The other theme. -/
def toggled : Theme → Theme
  | .dark => .light
  | .light => .dark

/-- The character of which bars consist. -/
def glyph : Theme → Char
  | .dark => '█'
  | .light => '░'

/-- The key under which the theme is kept. -/
def storageKey : String := "theme"

/-- The theme that the bytes name, regardless of blanks around the name.  Whatever is not the
name of the light theme names the dark one. -/
def ofBytes (data : ByteArray) : Theme :=
  match String.fromUTF8? data with
  | some text => if Text.trim text = light.name then .light else .dark
  | none => .dark

variable {m : Type → Type} [Monad m]

/-- The theme that is kept in the storage; it is dark when none is kept. -/
def load (storage : Storage m) : m (Except Fault Theme) := do
  if ← storage.holds storageKey then
    return (← storage.read storageKey).map ofBytes
  else
    return .ok .dark

/-- The theme is kept in the storage. -/
def save (storage : Storage m) (theme : Theme) : m (Except Fault Unit) :=
  storage.write storageKey theme.name.toUTF8

end Theme

end Agenda
