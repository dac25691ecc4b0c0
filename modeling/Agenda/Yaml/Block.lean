import Agenda.Yaml.Folding
import Agenda.Yaml.Token

/-!
# Block scalars

A block scalar is a text on lines of its own, behind a header that may tell its indentation
and how the breaks at its end are treated.  In the literal style lines are kept; in the
folded style a single line feed between two lines that do not begin with a space becomes a
space.
-/

namespace Agenda.Yaml

/-- What becomes of the breaks at the end of a block scalar. -/
inductive Chomping where
  /-- The last line keeps its break. -/
  | clip
  /-- All breaks are dropped. -/
  | strip
  /-- All breaks are kept. -/
  | keep
deriving DecidableEq, Repr

/-- The treatment of the last breaks that the character asks for. -/
def chomping? : Char → Option Chomping
  | '-' => some .strip
  | '+' => some .keep
  | _ => none

/-- The indentation that the character asks for: none if it is no digit.  It may not be
zero. -/
def indentation? (c : Char) : Option (Option Nat) :=
  match digit? 10 c with
  | some 0 => none
  | found => some found

/-- The parts of a header in either order, with the rest.  An indentation of zero stands for
one that is not told. -/
def blockHeader? : List Char → Option (Chomping × Nat × List Char)
  | [] => some (.clip, 0, [])
  | c :: rest =>
    match chomping? c with
    | some chomping =>
      match rest with
      | [] => some (chomping, 0, [])
      | d :: more => do
        match ← indentation? d with
        | some n => return (chomping, n, more)
        | none => return (chomping, 0, rest)
    | none => do
      match ← indentation? c with
      | none => return (.clip, 0, c :: rest)
      | some n =>
        match rest with
        | [] => return (.clip, n, [])
        | d :: more =>
          match chomping? d with
          | some chomping => return (chomping, n, more)
          | none => return (.clip, n, rest)

/-- The text behind the rest of a header line, which may be a comment behind spaces. -/
def afterHeader? (s : List Char) : Option (List Char) :=
  let s := s.dropWhile isSpace
  match s with
  | [] => some []
  | c :: rest =>
    if isBreak c then some rest
    else if c == '#' then some ((rest.dropWhile (!isBreak ·)).drop 1)
    else none

/-- What has been read of a block scalar; texts are collected in reverse. -/
structure BlockText where
  text : List Char := []
  /-- The break at the end of the last line. -/
  lineEnd : List Char := []
  /-- The breaks of the empty lines after it. -/
  emptyLines : List Char := []
  /-- The last line begins with a space. -/
  spaced : Bool := false

namespace BlockText

/-- A new line begins with the character. -/
def startLine (folded : Bool) (c : Char) (b : BlockText) : BlockText :=
  let joined :=
    if folded && b.lineEnd == ['\n'] && !b.spaced && !isSpace c then
      if b.emptyLines.isEmpty then ' ' :: b.text else b.text
    else b.lineEnd ++ b.text
  { text := c :: (b.emptyLines ++ joined), spaced := isSpace c }

/-- The whole text. -/
def finish (chomping : Chomping) (b : BlockText) : List Char :=
  (match chomping with
    | .clip => b.lineEnd ++ b.text
    | .strip => b.text
    | .keep => b.emptyLines ++ b.lineEnd ++ b.text).reverse

end BlockText

/-- The indentation that is found when none is told: as much as the widest of the lines up to
the first one with text, and at least the given one. -/
def foundIndent (least widest : Nat) : Nat :=
  max widest (max least 1)

/-- Reads lines of a block scalar.  The position is within a line of text if `inLine`, and
otherwise at the beginning of a line or behind some of its indentation.  An indentation of
zero is not known yet. -/
def readBlock (folded : Bool) (chomping : Chomping) (least indent widest : Nat) (inLine : Bool)
    (b : BlockText) (p : Position) : List Char → Option (List Char × Cursor)
  | [] => some (b.finish chomping, ⟨p, []⟩)
  | c :: rest =>
    if inLine then
      if isBreak c then
        readBlock folded chomping least indent widest false { b with lineEnd := [c] }
          (p.advance c) rest
      else
        readBlock folded chomping least indent widest true { b with text := c :: b.text }
          (p.advance c) rest
    else
      let indenting := indent == 0 || p.column < indent
      if c == ' ' && indenting then
        readBlock folded chomping least indent widest false b (p.advance c) rest
      else if c == '\t' && indenting then none
      else
        let widest := max widest p.column
        if isBreak c then
          readBlock folded chomping least indent widest false
            { b with emptyLines := c :: b.emptyLines } (p.advance c) rest
        else
          let indent := if indent == 0 then foundIndent least widest else indent
          if p.column == indent then
            readBlock folded chomping least indent widest true (b.startLine folded c)
              (p.advance c) rest
          else some (b.finish chomping, ⟨p, c :: rest⟩)

/-- The block scalar at the cursor, which stands behind the character that introduces it.
`least` is the least indentation of its lines. -/
def blockScalar (folded : Bool) (least : Nat) (at_ : Cursor) : Option (Scalar × Cursor) := do
  let (chomping, told, rest) ← blockHeader? at_.rest
  let lines := at_.moveTo (← afterHeader? rest)
  let indent := if told == 0 then 0 else (least - 1) + told
  let (text, behind) ←
    readBlock folded chomping least indent 0 false {} lines.position lines.rest
  return (⟨String.ofList text, if folded then .folded else .literal⟩, behind)

end Agenda.Yaml
