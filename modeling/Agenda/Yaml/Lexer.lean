import Agenda.Yaml.Block
import Agenda.Yaml.Plain
import Agenda.Yaml.Quoted
import Agenda.Yaml.Tag

/-!
# Reading tokens

The tokens of a document, from its characters.  Two things depend on more than the characters
at hand.

Indentation: a token that begins a block further right than the enclosing one is preceded by
the token for the beginning of a block, and all blocks that lie further right than the
current column are ended.

Keys: any node may turn out to be a key, but only the colon behind it tells.  So the number
and the place of the token that begins such a node are remembered, for each of the enclosing
flow collections, and the token for a key is put in when the colon is found.  The colon has
to be on the same line and at most 1024 bytes behind.
-/

namespace Agenda.Yaml

/-- A token that may begin a key. -/
structure Candidate where
  /-- It can be nothing but a key. -/
  required : Bool
  number : Nat
  position : Position

/-- The greatest distance in bytes between the beginning of a key and its colon. -/
def maxKeySize : Nat := 1024

/-- The colon of the key cannot be at the position any more. -/
def Candidate.isStale (k : Candidate) (p : Position) : Bool :=
  k.position.line < p.line || k.position.offset + maxKeySize < p.offset

/-- How far the tokens have been read. -/
structure Lexer where
  cursor : Cursor
  /-- The tokens read so far, the last one first. -/
  tokens : List Token := []
  /-- The columns of the enclosing blocks, the innermost first. -/
  indents : List Nat := []
  /-- The possible key in the innermost flow collection or in the block. -/
  key : Option Candidate := none
  /-- The possible keys around it, one for every enclosing flow collection. -/
  outerKeys : List (Option Candidate) := []
  /-- A key may begin here. -/
  mayStartKey : Bool := true

namespace Lexer

/-- The current column. -/
def column (l : Lexer) : Nat :=
  l.cursor.position.column

/-- The cursor is within a flow collection. -/
def inFlow (l : Lexer) : Bool :=
  !l.outerKeys.isEmpty

/-- The least column of what belongs to the innermost block. -/
def least (l : Lexer) : Nat :=
  match l.indents with
  | [] => 0
  | indent :: _ => indent + 1

/-- One more token. -/
def push (l : Lexer) (t : Token) : Lexer :=
  { l with tokens := t :: l.tokens }

/-- A token is put in before the one with the number. -/
def putIn (l : Lexer) (number : Nat) (t : Token) : Lexer :=
  { l with tokens := l.tokens.insertIdx (l.tokens.length - number) t }

/-- The cursor moved over a number of characters. -/
def skip (l : Lexer) (count : Nat) : Lexer :=
  { l with cursor := l.cursor.skip count }

/-! ### Blocks -/

/-- A block begins in the column if that lies further right than the innermost block.  The
token for it stands before the one with the given number. -/
def openBlock (l : Lexer) (column number : Nat) (t : Token) : Lexer :=
  if !l.inFlow && l.least ≤ column then
    ({ l with indents := column :: l.indents } : Lexer).putIn number t
  else l

/-- The blocks end that are not among those that remain. -/
def closeBlocks (l : Lexer) (remaining : List Nat) : Lexer :=
  { l with
    indents := remaining
    tokens := List.replicate (l.indents.length - remaining.length) .blockEnd ++ l.tokens }

/-- The blocks further right than the current column end. -/
def closeTo (l : Lexer) (column : Nat) : Lexer :=
  if l.inFlow then l else l.closeBlocks (l.indents.dropWhile (column < ·))

/-- All blocks end. -/
def closeAll (l : Lexer) : Lexer :=
  if l.inFlow then l else l.closeBlocks []

/-! ### Keys -/

/-- The candidate, unless its colon cannot follow any more.  That may not happen to a required
one. -/
def refreshed (p : Position) : Option Candidate → Option (Option Candidate)
  | none => some none
  | some k =>
    if k.isStale p then if k.required then none else some none
    else some (some k)

/-- All candidates are checked at the current position. -/
def refreshKeys (l : Lexer) : Option Lexer := do
  let p := l.cursor.position
  return { l with
    key := ← refreshed p l.key
    outerKeys := ← l.outerKeys.mapM (refreshed p) }

/-- The candidate is no key.  A required one may not be dropped. -/
def dropKey (l : Lexer) : Option Lexer :=
  match l.key with
  | some k => if k.required then none else some { l with key := none }
  | none => some l

/-- The next token may begin a key if a key may begin here. -/
def noteKey (l : Lexer) : Option Lexer := do
  if l.mayStartKey then
    let dropped ← l.dropKey
    let required := !l.inFlow && l.indents.head? == some l.column
    return { dropped with key := some ⟨required, l.tokens.length, l.cursor.position⟩ }
  else return l

/-! ### Gaps -/

/-- The cursor behind spaces, breaks and comments, and whether a key may begin there.
Tabulators are not allowed where they would be indentation.  A byte order mark at the
beginning of a line is passed over, and takes up a column like any other character. -/
def overGap (inFlow : Bool) (mayStartKey inComment : Bool) (p : Position) :
    List Char → Cursor × Bool
  | [] => (⟨p, []⟩, mayStartKey)
  | c :: rest =>
    if isBreak c then overGap inFlow (mayStartKey || !inFlow) false (p.advance c) rest
    else if inComment then overGap inFlow mayStartKey true (p.advance c) rest
    else if c == '\ufeff' && p.column == 0 then
      overGap inFlow mayStartKey false (p.advance c) rest
    else if c == ' ' || (c == '\t' && (inFlow || !mayStartKey)) then
      overGap inFlow mayStartKey false (p.advance c) rest
    else if c == '#' then overGap inFlow mayStartKey true (p.advance c) rest
    else (⟨p, c :: rest⟩, mayStartKey)

/-- The lexer at the next token. -/
def overSpace (l : Lexer) : Lexer :=
  let (cursor, mayStartKey) :=
    overGap l.inFlow l.mayStartKey false l.cursor.position l.cursor.rest
  { l with cursor, mayStartKey }

/-! ### Tokens -/

/-- A token of some characters that ends all blocks. -/
def documentMark (l : Lexer) (t : Token) : Option Lexer := do
  let l ← l.closeAll.dropKey
  return { (l.skip 3).push t with mayStartKey := false }

/-- A directive. -/
def directive (l : Lexer) : Option Lexer := do
  let l ← l.closeAll.dropKey
  let (t, rest) ← directive? (l.cursor.rest.drop 1)
  return { l.push t with cursor := l.cursor.moveTo rest, mayStartKey := false }

/-- A flow collection begins. -/
def openFlow (l : Lexer) (t : Token) : Option Lexer := do
  let l ← l.noteKey
  return { (l.skip 1).push t with
    key := none, outerKeys := l.key :: l.outerKeys, mayStartKey := true }

/-- A flow collection ends. -/
def closeFlow (l : Lexer) (t : Token) : Option Lexer := do
  let l ← l.dropKey
  let closed :=
    match l.outerKeys with
    | [] => l
    | key :: outerKeys => { l with key, outerKeys }
  return { (closed.skip 1).push t with mayStartKey := false }

/-- A comma. -/
def comma (l : Lexer) : Option Lexer := do
  let l ← l.dropKey
  return { (l.skip 1).push .comma with mayStartKey := true }

/-- The hyphen of an item.  It begins a block if a key could begin here. -/
def item (l : Lexer) : Option Lexer := do
  guard (l.inFlow || l.mayStartKey)
  let l ← (l.openBlock l.column l.tokens.length .blockSequence).dropKey
  return { (l.skip 1).push .item with mayStartKey := true }

/-- The question mark of a key. -/
def explicitKey (l : Lexer) : Option Lexer := do
  guard (l.inFlow || l.mayStartKey)
  let l ← (l.openBlock l.column l.tokens.length .blockMapping).dropKey
  return { (l.skip 1).push .key with mayStartKey := !l.inFlow }

/-- The colon of a value.  It turns the candidate before it into a key. -/
def value (l : Lexer) : Option Lexer := do
  let l ← match l.key with
    | some k =>
      let keyed := (l.putIn k.number .key).openBlock k.position.column k.number .blockMapping
      some { keyed with key := none, mayStartKey := false }
    | none => do
      guard (l.inFlow || l.mayStartKey)
      let opened := l.openBlock l.column l.tokens.length .blockMapping
      pure { opened with mayStartKey := !l.inFlow }
  return (l.skip 1).push .value

/-- An alias or an anchor. -/
def named (l : Lexer) (token : String → Token) : Option Lexer := do
  let l ← l.noteKey
  let s := l.cursor.rest.drop 1
  let name := s.takeWhile isNameChar
  let rest := s.dropWhile isNameChar
  guard (!name.isEmpty && (startsGap rest || rest.head?.any ("?:,]\x7d%@\x60".toList.contains ·)))
  return { l.push (token (String.ofList name)) with
    cursor := l.cursor.moveTo rest, mayStartKey := false }

/-- A tag. -/
def tag (l : Lexer) : Option Lexer := do
  let l ← l.noteKey
  let (t, rest) ← tag? l.cursor.rest
  guard (startsGap rest || (l.inFlow && rest.head? == some ','))
  return { l.push t with cursor := l.cursor.moveTo rest, mayStartKey := false }

/-- A block scalar. -/
def block (l : Lexer) (folded : Bool) : Option Lexer := do
  let l ← l.dropKey
  let (s, cursor) ← blockScalar folded l.least (l.cursor.skip 1)
  return { l.push (.scalar s) with cursor, mayStartKey := true }

/-- A quoted scalar. -/
def quoted (l : Lexer) (quote : Char) : Option Lexer := do
  let l ← l.noteKey
  let (s, cursor) ← quotedScalar quote (l.cursor.skip 1)
  return { l.push (.scalar s) with cursor, mayStartKey := false }

/-- A plain scalar. -/
def plain (l : Lexer) : Option Lexer := do
  let l ← l.noteKey
  let (s, mayStartKey, cursor) ←
    readPlain l.inFlow l.least [] .nothing l.cursor.position l.cursor.rest
  return { l.push (.scalar s) with cursor, mayStartKey }

/-- The characters with which no plain scalar begins.  Hyphen, question mark and colon are
exceptions where they do not stand for themselves. -/
def indicators : List Char :=
  ",[]\x7b\x7d#&*!|>'\"%@\x60".toList

/-- The next token, which begins with the character `c`. -/
def next (l : Lexer) (c : Char) (rest : List Char) : Option Lexer :=
  let stands := l.inFlow || startsGap rest
  if l.column == 0 && c == '%' then l.directive
  else if l.column == 0 && marksDocument (c :: rest) then
    l.documentMark (if c == '-' then .documentStart else .documentEnd)
  else if c == '[' then l.openFlow .flowSequence
  else if c == '\x7b' then l.openFlow .flowMapping
  else if c == ']' then l.closeFlow .flowSequenceEnd
  else if c == '\x7d' then l.closeFlow .flowMappingEnd
  else if c == ',' then l.comma
  else if c == '-' && startsGap rest then l.item
  else if c == '?' && stands then l.explicitKey
  else if c == ':' && stands then l.value
  else if c == '*' then l.named .alias
  else if c == '&' then l.named .anchor
  else if c == '!' then l.tag
  else if c == '|' && !l.inFlow then l.block false
  else if c == '>' && !l.inFlow then l.block true
  else if c == '\'' || c == '"' then l.quoted c
  else if isGap c || indicators.contains c then none
  else l.plain

/-- The tokens from the current position on, if they are at most as many as `bound`. -/
def run : (bound : Nat) → Lexer → Option (List Token)
  | 0, _ => none
  | bound + 1, l => do
    let l ← l.overSpace.refreshKeys
    let l := l.closeTo l.column
    match l.cursor.rest with
    | [] => return (← l.closeAll.dropKey).tokens.reverse
    | c :: rest => run bound (← l.next c rest)

end Lexer

/-- The tokens of a document.  Every token takes up a character at least. -/
def tokens? (document : List Char) : Option (List Token) :=
  if document.all isAdmissible then
    let text := unifyBreaks document
    Lexer.run (text.length + 1) { cursor := ⟨{}, text⟩ }
  else none

end Agenda.Yaml
