/-!
# Keywords

A keyword is an ASCII word in capitals.  It is recognised in any letter case, where letter
case is simple case folding: besides the small ASCII letters, the long s counts as `S` and
the kelvin sign counts as `K`.  The letters of field names are the characters that fold to
an ASCII letter, and the underscore.
-/

namespace Agenda.Text

/-- The capital ASCII letter that the character folds to, or the character itself. -/
def foldLetter (c : Char) : Char :=
  if c = '\u017F' then 'S'
  else if c = '\u212A' then 'K'
  else c.toUpper

/-- A character that may stand in the name of a field. -/
def isFieldLetter (c : Char) : Bool :=
  c == '_' || c.isAlpha || c == '\u017F' || c == '\u212A'

/-- What follows the word at the front of the text, if the word stands there. -/
def keyword? : (word : List Char) → (text : List Char) → Option (List Char)
  | [], rest => some rest
  | _ :: _, [] => none
  | w :: word, c :: rest => if foldLetter c = w then keyword? word rest else none

/-- A recognised keyword is cut off the text. -/
theorem length_of_keyword? {word text rest : List Char} (h : keyword? word text = some rest) :
  rest.length + word.length = text.length
  := by
  induction word generalizing text with
  | nil => simp_all [keyword?]
  | cons w word ih =>
    cases text with
    | nil => simp [keyword?] at h
    | cons c text =>
      simp only [keyword?] at h
      split at h
      · simp [← ih h, Nat.add_assoc]
      · contradiction

end Agenda.Text
