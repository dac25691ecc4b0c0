import Agenda.Text.Case.Small
import Agenda.Text.Case.Cased

/-!
# Small letters

`lower` puts a text in small letters.  Every character is replaced on its own, with one
exception: a capital sigma becomes the final sigma at the end of a word and the ordinary
small sigma elsewhere.  It ends a word when the nearest character before it that is not
case-ignorable is cased, and the nearest such character after it is not.
-/

namespace Agenda.Text

/-- The small form of a character other than the capital sigma. -/
def lowerChar (c : Char) : List Char :=
  if c.toNat < 0x80 then [c.toLower]
  else if c = '\u0130' then ['i', '\u0307']
  else match smallLetter? c.toNat with
    | some n => [Char.ofNat n]
    | none => [c]

/-- The first character of the list that is not case-ignorable exists and is cased. -/
def reachesCased (s : List Char) : Bool :=
  match s.dropWhile isCaseIgnorable with
  | [] => false
  | c :: _ => isCased c

/-- The small form of a capital sigma between the reversed text `before` and the text
`after`. -/
def lowerSigma (before after : List Char) : Char :=
  if reachesCased before && !reachesCased after then 'ς' else 'σ'

/-- The rest of a text in small letters, where `before` is what precedes it, reversed. -/
def lowerFrom : (before : List Char) → (rest : List Char) → List Char
  | _, [] => []
  | before, c :: rest =>
    (if c = 'Σ' then [lowerSigma before rest] else lowerChar c) ++ lowerFrom (c :: before) rest

/-- The characters in small letters. -/
def lowerChars (s : List Char) : List Char :=
  lowerFrom [] s

/-- The text in small letters. -/
def lower (s : String) : String :=
  String.ofList (lowerChars s.toList)

end Agenda.Text
