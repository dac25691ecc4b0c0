import Agenda.Yaml.Character
import Agenda.Yaml.Token

/-!
# Tags and directives

A tag names the type of a node, in full between angle brackets or by a handle and a suffix.
A directive at the beginning of a document gives the version of the language or what a
handle stands for.  Each reader gives what it reads with the rest of the text.
-/

namespace Agenda.Yaml

/-! ### Names of types -/

/-- The characters that a suffix may contain as they are. -/
def isSuffixChar (c : Char) : Bool :=
  isNameChar c || ";/?:@&=+$.!~*'()".toList.contains c

/-- The characters that a name in full may contain as they are. -/
def isFullNameChar (c : Char) : Bool :=
  isSuffixChar c || c == ',' || c == '[' || c == ']'

/-- How many more bytes follow the first byte of a character. -/
def bytesAfter? (first : Nat) : Option Nat :=
  if first < 0x80 then some 0
  else if 0xC0 ≤ first && first < 0xE0 then some 1
  else if 0xE0 ≤ first && first < 0xF0 then some 2
  else if 0xF0 ≤ first && first < 0xF8 then some 3
  else none

/-- How many more bytes follow the byte, which is the first of a character if `due` is zero
and otherwise one of those that are due. -/
def bytesDue? (due byte : Nat) : Option Nat :=
  match due with
  | 0 => bytesAfter? byte
  | due + 1 => if 0x80 ≤ byte && byte < 0xC0 then some due else none

/-- Reads the bytes of a name, collected in reverse.  A percent sign stands before a byte that
is written with two hexadecimal digits; `due` is the number of bytes that the last character
lacks. -/
def readName (isPlain : Char → Bool) (due : Nat) (collected : TagName) :
    List Char → Option (TagName × List Char)
  | [] => if due = 0 then some (collected, []) else none
  | '%' :: a :: b :: rest => do
    let byte := (← hexDigit? a) * 16 + (← hexDigit? b)
    readName isPlain (← bytesDue? due byte) (byte.toUInt8 :: collected) rest
  | c :: rest =>
    if due ≠ 0 || c == '%' then none
    else if isPlain c then readName isPlain 0 (c.toNat.toUInt8 :: collected) rest
    else some (collected, c :: rest)

/-- The name after the given beginning; it may not be empty unless `mayBeEmpty`.  A zero byte
ends it. -/
def typeName? (isPlain : Char → Bool) (mayBeEmpty : Bool) (start : TagName) (s : List Char) :
    Option (TagName × List Char) := do
  let (collected, rest) ← readName isPlain 0 [] s
  guard (mayBeEmpty || !collected.isEmpty)
  return ((start ++ collected.reverse).takeWhile (· ≠ 0), rest)

/-- The bytes of a name without its leading exclamation mark. -/
def bytesOf (name : List Char) : TagName :=
  name.map (·.toNat.toUInt8)

/-! ### Tags -/

/-- The handle at the beginning of the text: an exclamation mark with a name and a second
exclamation mark behind it, both of which may be missing. -/
def handle? : List Char → Option (List Char × List Char)
  | '!' :: rest =>
    let name := rest.takeWhile isNameChar
    match rest.dropWhile isNameChar with
    | '!' :: rest => some ('!' :: (name ++ ['!']), rest)
    | rest => some ('!' :: name, rest)
  | _ => none

/-- The handle ends with a second exclamation mark. -/
def isClosed (handle : List Char) : Bool :=
  2 ≤ handle.length && handle.getLast? == some '!'

/-- Handle and suffix of the tag at the beginning of the text.  A tag in full has an empty
handle, and so has the tag that is an exclamation mark only. -/
def tag? (s : List Char) : Option (Token × List Char) :=
  match s with
  | '!' :: '<' :: rest => do
    match ← typeName? isFullNameChar false [] rest with
    | (name, '>' :: rest) => return (.tag "" name, rest)
    | _ => none
  | _ => do
    let (handle, rest) ← handle? s
    if isClosed handle then
      let (suffix, rest) ← typeName? isSuffixChar false [] rest
      return (.tag (String.ofList handle) suffix, rest)
    else
      let (suffix, rest) ← typeName? isSuffixChar true (bytesOf (handle.drop 1)) rest
      return (if suffix.isEmpty then .tag "" (bytesOf ['!']) else .tag "!" suffix, rest)

/-! ### Directives -/

/-- The greatest number of digits in a version number. -/
def maxVersionDigits : Nat := 9

/-- A version number. -/
def versionNumber? (s : List Char) : Option (Nat × List Char) := do
  let digits := s.takeWhile Char.isDigit
  guard (digits.length ≤ maxVersionDigits)
  return (← number? 10 digits, s.dropWhile Char.isDigit)

/-- The two numbers of a version with a point between them. -/
def version? (s : List Char) : Option (Token × List Char) := do
  match ← versionNumber? s with
  | (major, '.' :: rest) =>
    let (minor, rest) ← versionNumber? rest
    return (.version major minor, rest)
  | _ => none

/-- A handle and what it stands for, with spaces between them. -/
def shorthand? (s : List Char) : Option (Token × List Char) := do
  let (handle, rest) ← handle? s
  guard (isClosed handle || handle == ['!'])
  guard (rest.head?.any isSpace)
  let (start, rest) ← typeName? isFullNameChar false [] (rest.dropWhile isSpace)
  guard (startsGap rest)
  return (.shorthand (String.ofList handle) start, rest)

/-- The directive behind a percent sign.  The rest of its line may only be a comment. -/
def directive? (s : List Char) : Option (Token × List Char) := do
  let name := s.takeWhile isNameChar
  let rest := s.dropWhile isNameChar
  guard (startsGap rest)
  let content := rest.dropWhile isSpace
  let (directive, rest) ←
    if name == "YAML".toList then version? content
    else if name == "TAG".toList then shorthand? content
    else none
  let rest := rest.dropWhile isSpace
  match rest with
  | [] => return (directive, [])
  | c :: _ =>
    guard (isBreak c || c == '#')
    return (directive, (rest.dropWhile (!isBreak ·)).drop 1)

end Agenda.Yaml
