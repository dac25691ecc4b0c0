/-!
# Characters of a document

The classes of characters that the structure of a YAML document depends on, and positions
within a document.  Most line breaks are the same: `unifyBreaks` writes them as line feeds.
Only the line and paragraph separators remain apart from these.
-/

namespace Agenda.Yaml

/-- The characters that a document may consist of. -/
def isAdmissible (c : Char) : Bool :=
  let n := c.toNat
  n == 0x09 || n == 0x0A || n == 0x0D || (0x20 ≤ n && n ≤ 0x7E) || n == 0x85 ||
    (0xA0 ≤ n && n ≤ 0xFFFD) || 0x10000 ≤ n

/-- The document with a line feed in place of every carriage return, alone or with a line
feed, and of every next line character. -/
def unifyBreaks : List Char → List Char
  | [] => []
  | '\r' :: '\n' :: rest => '\n' :: unifyBreaks rest
  | c :: rest => (if c = '\r' || c = '\u0085' then '\n' else c) :: unifyBreaks rest

/-- The characters that end a line, after breaks are unified. -/
def isBreak (c : Char) : Bool :=
  c == '\n' || c == '\u2028' || c == '\u2029'

/-- Space and tabulator. -/
def isSpace (c : Char) : Bool :=
  c == ' ' || c == '\t'

/-- Spaces and breaks, which separate tokens. -/
def isGap (c : Char) : Bool :=
  isSpace c || isBreak c

/-- The text is empty or begins with a gap. -/
def startsGap : List Char → Bool
  | [] => true
  | c :: _ => isGap c

/-- The characters of names: letters, digits, the hyphen and the underscore. -/
def isNameChar (c : Char) : Bool :=
  c.isAlphanum || c == '-' || c == '_'

/-- The value of a hexadecimal digit. -/
def hexDigit? (c : Char) : Option Nat :=
  if '0' ≤ c && c ≤ '9' then some (c.toNat - '0'.toNat)
  else if 'a' ≤ c && c ≤ 'f' then some (c.toNat - 'a'.toNat + 10)
  else if 'A' ≤ c && c ≤ 'F' then some (c.toNat - 'A'.toNat + 10)
  else none

/-- The value of a digit to the given base, which is at most 16. -/
def digit? (base : Nat) (c : Char) : Option Nat :=
  (hexDigit? c).filter (· < base)

/-- The number that the digits denote; there has to be at least one. -/
def number? (base : Nat) (digits : List Char) : Option Nat :=
  if digits.isEmpty then none
  else digits.foldlM (fun n c => (digit? base c).map (n * base + ·)) 0

/-- The text begins with a line that separates documents: three hyphens or three dots before
a gap. -/
def marksDocument : List Char → Bool
  | a :: b :: c :: rest =>
    (a == '-' || a == '.') && b == a && c == a && startsGap rest
  | _ => false

/-- A place in a document: its distance from the beginning in bytes, its line, and its column
in characters. -/
structure Position where
  offset : Nat := 0
  line : Nat := 0
  column : Nat := 0
deriving DecidableEq, Repr

namespace Position

/-- The place behind the character. -/
def advance (p : Position) (c : Char) : Position :=
  if isBreak c then ⟨p.offset + c.utf8Size, p.line + 1, 0⟩
  else ⟨p.offset + c.utf8Size, p.line, p.column + 1⟩

/-- The place behind the characters. -/
def past (p : Position) (cs : List Char) : Position :=
  cs.foldl advance p

end Position

/-- A place in a document with what follows it. -/
structure Cursor where
  position : Position
  rest : List Char

namespace Cursor

/-- The cursor moved over a number of characters. -/
def skip (c : Cursor) (count : Nat) : Cursor :=
  ⟨c.position.past (c.rest.take count), c.rest.drop count⟩

/-- The cursor moved to where only the given end of the document follows. -/
def moveTo (c : Cursor) (rest : List Char) : Cursor :=
  c.skip (c.rest.length - rest.length)

end Cursor

end Agenda.Yaml
