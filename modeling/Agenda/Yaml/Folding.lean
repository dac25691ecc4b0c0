import Agenda.Yaml.Character

/-!
# Folding

Within a scalar in the plain or a quoted style, spaces and breaks between two words are kept
or folded: spaces around a break vanish, a single line feed becomes a space, and of several
line feeds the first one vanishes.  A break that is escaped counts for nothing.

Texts are collected in reverse.
-/

namespace Agenda.Yaml

/-- What stands between two words, collected in reverse. -/
inductive Between where
  | spaces (cs : List Char)
  /-- A first break, unless it is escaped, and further ones. -/
  | breaks (first : Option Char) (more : List Char)
deriving DecidableEq, Repr

namespace Between

/-- Nothing at all. -/
def nothing : Between := .spaces []

/-- The words stand on different lines. -/
def crossesLine : Between → Bool
  | .spaces _ => false
  | .breaks _ _ => true

/-- One more space or break. -/
def add (c : Char) : Between → Between
  | .spaces cs => if isBreak c then .breaks (some c) [] else .spaces (c :: cs)
  | .breaks first more => .breaks first (if isBreak c then c :: more else more)

/-- The text with the folded gap behind it. -/
def join (text : List Char) : Between → List Char
  | .spaces cs => cs ++ text
  | .breaks (some '\n') [] => ' ' :: text
  | .breaks (some '\n') more => more ++ text
  | .breaks first more => more ++ first.toList ++ text

end Between

end Agenda.Yaml
