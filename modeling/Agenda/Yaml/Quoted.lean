import Agenda.Yaml.Folding
import Agenda.Yaml.Token

/-!
# Quoted scalars

A scalar between single quotes contains single quotes doubled and has no other escapes.
Between double quotes a backslash escapes the character after it, a number in hexadecimal
digits, or a break.
-/

namespace Agenda.Yaml

/-- The character that an escape of one letter stands for. -/
def letterEscape? : Char → Option Char
  | '0' => some '\x00'
  | 'a' => some '\x07'
  | 'b' => some '\x08'
  | 't' => some '\t'
  | '\t' => some '\t'
  | 'n' => some '\n'
  | 'v' => some '\x0b'
  | 'f' => some '\x0c'
  | 'r' => some '\r'
  | 'e' => some '\x1b'
  | ' ' => some ' '
  | '"' => some '"'
  | '/' => some '/'
  | '\\' => some '\\'
  | 'N' => some '\u0085'
  | '_' => some '\u00a0'
  | 'L' => some '\u2028'
  | 'P' => some '\u2029'
  | _ => none

/-- How many hexadecimal digits follow the letter. -/
def hexCount? : Char → Option Nat
  | 'x' => some 2
  | 'u' => some 4
  | 'U' => some 8
  | _ => none

/-- The character with the number, if there is one. -/
def charOfNumber? (n : Nat) : Option Char :=
  if n.isValidChar then some (Char.ofNat n) else none

/-- The character that is escaped at the beginning of the text, with the number of characters
behind the backslash that denote it. -/
def escape? : List Char → Option (Char × Nat)
  | [] => none
  | c :: rest =>
    (letterEscape? c).map (·, 1) <|> do
      let count ← hexCount? c
      let digits := rest.take count
      guard (digits.length = count)
      return (← charOfNumber? (← number? 16 digits), count + 1)

/-- The scalar that begins with the collected text, with the place behind its closing quote.
Of the characters that follow the position, the first `passed` are dealt with already. -/
def readQuoted (quote : Char) (text : List Char) (gap : Between) (passed : Nat) (p : Position) :
    List Char → Option (List Char × Cursor)
  | [] => none
  | c :: rest =>
    match passed with
    | passed + 1 => readQuoted quote text gap passed (p.advance c) rest
    | 0 =>
      if isGap c then readQuoted quote text (gap.add c) 0 (p.advance c) rest
      else if p.column == 0 && marksDocument (c :: rest) then none
      else
        let joined := gap.join text
        if c == quote then
          if quote == '\'' && rest.head? == some quote then
            readQuoted quote (quote :: joined) .nothing 1 (p.advance c) rest
          else some (joined.reverse, ⟨p.advance c, rest⟩)
        else if quote == '"' && c == '\\' then
          if rest.head?.any isBreak then
            readQuoted quote joined (.breaks none []) 1 (p.advance c) rest
          else match escape? rest with
            | some (value, count) =>
              readQuoted quote (value :: joined) .nothing count (p.advance c) rest
            | none => none
        else readQuoted quote (c :: joined) .nothing 0 (p.advance c) rest

/-- The quoted scalar at the cursor, which stands behind the opening quote. -/
def quotedScalar (quote : Char) (at_ : Cursor) : Option (Scalar × Cursor) := do
  let (text, behind) ← readQuoted quote [] .nothing 0 at_.position at_.rest
  return (⟨String.ofList text, if quote == '"' then .doubleQuoted else .singleQuoted⟩, behind)

end Agenda.Yaml
