/-!
# Text within text

`occursIn needle text` decides whether the needle is a contiguous part of the text, and
`startsWith text front` whether the text begins with the given characters.
-/

namespace Agenda.Text

/-- The needle stands somewhere in the list. -/
def occursInChars (needle : List Char) : List Char → Bool
  | [] => needle.isEmpty
  | c :: rest => needle.isPrefixOf (c :: rest) || occursInChars needle rest

/-- The needle stands somewhere in the text. -/
def occursIn (needle text : String) : Bool :=
  occursInChars needle.toList text.toList

/-- The text begins with `front`. -/
def startsWith (text front : String) : Bool :=
  front.toList.isPrefixOf text.toList

/-- Occurring is being an infix. -/
theorem occursInChars_iff {needle text : List Char} :
  occursInChars needle text = true ↔ needle <:+: text
  := by
  induction text with
  | nil => simp [occursInChars]
  | cons c rest ih => simp [occursInChars, List.infix_cons_iff, ih]

theorem occursIn_iff {needle text : String} :
  occursIn needle text = true ↔ needle.toList <:+: text.toList
  := occursInChars_iff

theorem startsWith_iff {text front : String} :
  startsWith text front = true ↔ front.toList <+: text.toList
  := by
  simp [startsWith]

end Agenda.Text
