import Agenda.Yaml.Folding
import Agenda.Yaml.Token

/-!
# Plain scalars

A plain scalar is a text without any delimiters.  It ends before a comment, before a colon
that a gap follows, before a line that separates documents and, outside flow collections,
before a line with less indentation than required.  Within flow collections it also ends
before commas and brackets.
-/

namespace Agenda.Yaml

/-- The characters that structure flow collections. -/
def isFlowIndicator (c : Char) : Bool :=
  c == ',' || c == '[' || c == ']' || c == '\x7b' || c == '\x7d'

/-- The plain scalar ends before the character `c`.  The character stands at the position,
behind the gap, and the rest follows it. -/
def endsPlain (inFlow : Bool) (least : Nat) (gap : Between) (p : Position) (c : Char)
    (rest : List Char) : Bool :=
  (gap.crossesLine && !inFlow && p.column < least) ||
    (p.column == 0 && marksDocument (c :: rest)) ||
    (c == '#' && gap != Between.nothing) || (c == ':' && startsGap rest) ||
    (inFlow && isFlowIndicator c)

/-- The plain scalar that begins with the collected text, with the place behind it and whether
that is on a later line than the end of its text. -/
def readPlain (inFlow : Bool) (least : Nat) (text : List Char) (gap : Between) (p : Position) :
    List Char → Option (Scalar × Bool × Cursor)
  | [] => some (⟨String.ofList text.reverse, .plain⟩, gap.crossesLine, ⟨p, []⟩)
  | c :: rest =>
    if isGap c then
      if gap.crossesLine && c == '\t' && p.column < least then none
      else readPlain inFlow least text (gap.add c) (p.advance c) rest
    else if endsPlain inFlow least gap p c rest then
      some (⟨String.ofList text.reverse, .plain⟩, gap.crossesLine, ⟨p, c :: rest⟩)
    else if inFlow && c == ':' && rest.head?.any (fun d => isFlowIndicator d || d == '?') then
      none
    else readPlain inFlow least (c :: gap.join text) .nothing (p.advance c) rest

end Agenda.Yaml
