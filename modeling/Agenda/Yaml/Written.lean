import Agenda.Text.Lower
import Agenda.Yaml.Character
import Agenda.Yaml.Token

/-!
# Writing texts

The value of an entry as a YAML scalar.  A text is written in the plain style if it could not
be taken for anything else, with its lines in a literal block if it has several, and between
quotes otherwise.  Characters that may not stand in a document as they are need double
quotes.
-/

namespace Agenda.Yaml

/-! ### The characters of a text -/

/-- The character may be written as it is. -/
def isPrintable (c : Char) : Bool :=
  let n := c.toNat
  n == 0x0A || (0x20 ≤ n && n ≤ 0x7E) || (0xA0 ≤ n && n ≤ 0xFFFD && n != 0xFEFF) || 0x10000 ≤ n

/-- The text holds two characters next to each other of which the first satisfies `p` and the
second `q`. -/
def hasPair (p q : Char → Bool) : List Char → Bool
  | a :: b :: rest => (p a && q b) || hasPair p q (b :: rest)
  | _ => false

/-- The text begins or ends with a character that satisfies `p`. -/
def hasAtEnd (p : Char → Bool) (s : List Char) : Bool :=
  s.head?.any p || s.getLast?.any p

/-- The first character of the text does not let it be a plain scalar. -/
def beginsIndicator : List Char → Bool
  | [] => false
  | c :: rest =>
    "#,[]\x7b\x7d&*!|>'\"%@\x60".toList.contains c ||
      ((c == '?' || c == ':' || c == '-') && startsGap rest)

/-- The text as a plain scalar would end at a colon or a comment, or be taken for a mark
between documents. -/
def isMisread (s : List Char) : Bool :=
  beginsIndicator s || "---".toList.isPrefixOf s || "...".toList.isPrefixOf s ||
    s.getLast? == some ':' || hasPair (· == ':') isGap s || hasPair isGap (· == '#') s

/-- The text can be written as a plain scalar. -/
def mayBePlain (s : List Char) : Bool :=
  s.all isPrintable && !s.any isBreak && !hasAtEnd (· == ' ') s && !isMisread s

/-- The text can be written between single quotes. -/
def mayBeSingleQuoted (s : List Char) : Bool :=
  s.all isPrintable && !hasPair isBreak (· == ' ') s && !hasPair (· == ' ') isBreak s

/-- The text can be written as a literal block. -/
def mayBeLiteral (s : List Char) : Bool :=
  s.all isPrintable && !hasPair (· == ' ') isBreak s && s.getLast? != some ' '

/-! ### The choice of a style -/

/-- The words that are used for truth values and for nothing. -/
def reservedWords : List String :=
  ["y", "yes", "n", "no", "on", "off", "true", "false", "null", "nil", "~", "nan"]

/-- The words for truth values in the letter cases that are used for them. -/
def truthWords : List String :=
  ["y", "Y", "yes", "Yes", "YES", "n", "N", "no", "No", "NO", "true", "True", "TRUE", "false",
    "False", "FALSE", "on", "On", "ON", "off", "Off", "OFF"]

/-- The text could be meant as a number, a truth value or nothing. -/
def isAmbiguous (text : String) : Bool :=
  let small := Text.lower text
  reservedWords.contains small ||
    match small.toList with
    | [] => true
    | c :: _ => c.isDigit || c == '-' || c == '.' || c == '+'

/-- The style in which the text is written if its characters admit it. -/
def preferredStyle (text : String) : Style :=
  if truthWords.contains text then .singleQuoted
  else if text.contains '\n' then .literal
  else if isAmbiguous text then .singleQuoted
  else .plain

/-- The style in which the text is written. -/
def writtenStyle (text : String) : Style :=
  let s := text.toList
  let quoted := if mayBeSingleQuoted s then Style.singleQuoted else .doubleQuoted
  match preferredStyle text with
  | .plain => if mayBePlain s then .plain else quoted
  | .literal => if mayBeLiteral s then .literal else .doubleQuoted
  | _ => quoted

/-! ### The styles -/

/-- As many spaces as told. -/
def spaces (count : Nat) : List Char :=
  List.replicate count ' '

/-- The text with indentation at the beginning of every line, apart from empty ones.  The
text begins a line if `fresh`. -/
def indentLines (indent : Nat) (fresh : Bool) : List Char → List Char
  | [] => []
  | c :: rest =>
    if isBreak c then c :: indentLines indent true rest
    else (if fresh then spaces indent else []) ++ c :: indentLines indent false rest

/-- The text with its single quotes doubled. -/
def doubleSingleQuotes (s : List Char) : List Char :=
  s.flatMap fun c => if c = '\'' then ['\'', '\''] else [c]

/-- The text between single quotes.  A break that ends it is followed by indentation. -/
def writeSingleQuoted (indent : Nat) (s : List Char) : List Char :=
  '\'' :: (indentLines indent false (doubleSingleQuotes s) ++
    (if s.getLast?.any isBreak then spaces indent else []) ++ ['\''])

/-- The number in capital hexadecimal digits with leading zeros up to the width. -/
def writeHex (width n : Nat) : List Char :=
  let digits := (Nat.toDigits 16 n).map Char.toUpper
  List.replicate (width - digits.length) '0' ++ digits

/-- The character as it is written between double quotes. -/
def writeEscaped (c : Char) : List Char :=
  match c with
  | '\x00' => ['\\', '0']
  | '\x07' => ['\\', 'a']
  | '\x08' => ['\\', 'b']
  | '\t' => ['\\', 't']
  | '\n' => ['\\', 'n']
  | '\x0b' => ['\\', 'v']
  | '\x0c' => ['\\', 'f']
  | '\r' => ['\\', 'r']
  | '\x1b' => ['\\', 'e']
  | '"' => ['\\', '"']
  | '\\' => ['\\', '\\']
  | '\u0085' => ['\\', 'N']
  | '\u2028' => ['\\', 'L']
  | '\u2029' => ['\\', 'P']
  | c =>
    if isPrintable c then [c]
    else if c.toNat ≤ 0xFF then '\\' :: 'x' :: writeHex 2 c.toNat
    else if c.toNat ≤ 0xFFFF then '\\' :: 'u' :: writeHex 4 c.toNat
    else '\\' :: 'U' :: writeHex 8 c.toNat

/-- The text between double quotes. -/
def writeDoubleQuoted (s : List Char) : List Char :=
  '"' :: (s.flatMap writeEscaped ++ ['"'])

/-- The step by which entries are indented. -/
def indentStep : Nat := 2

/-- The header of a literal block.  It tells the indentation if the text begins with a space
or a break, and what becomes of the breaks at the end. -/
def writeHeader (s : List Char) : List Char :=
  let indentation := if s.head?.any fun c => c == ' ' || isBreak c then [Nat.digitChar indentStep] else []
  let chomping :=
    match s.reverse with
    | [] => ['-']
    | [c] => if isBreak c then ['+'] else ['-']
    | c :: before :: _ => if !isBreak c then ['-'] else if isBreak before then ['+'] else []
  '|' :: (indentation ++ chomping)

/-- The text as a literal block, whose last line has a break in any case. -/
def writeLiteral (indent : Nat) (s : List Char) : List Char :=
  writeHeader s ++ '\n' :: indentLines indent true s ++
    (if s.getLast?.any isBreak then [] else ['\n'])

/-- The text as a value, up to the end of its last line.  Further lines have the given
indentation. -/
def writeText (indent : Nat) (text : String) : List Char :=
  let s := text.toList
  match writtenStyle text with
  | .plain => s ++ ['\n']
  | .singleQuoted => writeSingleQuoted indent s ++ ['\n']
  | .doubleQuoted => writeDoubleQuoted s ++ ['\n']
  | _ => writeLiteral indent s

/-- An entry with a text as its value, indented by the given number of steps. -/
def writeEntry (depth : Nat) (key value : String) : List Char :=
  spaces (depth * indentStep) ++ key.toList ++ ':' :: ' ' ::
    writeText ((depth + 1) * indentStep) value

end Agenda.Yaml
