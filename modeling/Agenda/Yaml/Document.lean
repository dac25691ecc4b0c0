import Agenda.Yaml.Lexer
import Agenda.Yaml.Node

/-!
# Reading documents

The document that a list of tokens describes.  Missing keys, values and items are empty plain
scalars.  There may be directives before the document and marks around it, but no second
document.
-/

namespace Agenda.Yaml

namespace Reader

/-- The tokens that are left, and the anchors so far. -/
structure State where
  tokens : List Token
  anchors : Anchors := {}

end Reader

/-- Reading of tokens, which may fail. -/
abbrev Reader := StateT Reader.State Option

namespace Reader

/-- The next token, which stays where it is. -/
def peek : Reader (Option Token) :=
  return (← get).tokens.head?

/-- The next token is passed over. -/
def skip : Reader Unit :=
  modify fun s => { s with tokens := s.tokens.drop 1 }

/-- The next token is passed over if it is the given one. -/
def accept (t : Token) : Reader Bool := do
  if (← peek) == some t then
    skip
    return true
  else
    return false

/-- The next token is one of those given. -/
def standsBefore (ts : List Token) : Reader Bool :=
  return (← peek).any ts.contains

/-! ### Directives -/

/-- What handles stand for. -/
abbrev Handles := Bindings TagName

/-- The characters of a text as bytes. -/
def ascii (text : String) : TagName :=
  text.toList.map (·.toNat.toUInt8)

/-- The handles that need no declaration. -/
def ownHandles : Handles :=
  [("!", ascii "!"), ("!!", ascii "tag:yaml.org,2002:")]

/-- The version is one that this reader knows. -/
def isKnownVersion (major minor : Nat) : Bool :=
  major == 1 && (minor == 1 || minor == 2)

/-- The handles declared by the directives at the front, with the tokens after these.  There
may be one version and one declaration for each handle. -/
def directives (versioned : Bool) (declared : Handles) :
    List Token → Option (Handles × List Token)
  | .version major minor :: rest =>
    if versioned || !isKnownVersion major minor then none else directives true declared rest
  | .shorthand handle start :: rest =>
    if (declared.get? handle).isSome then none
    else directives versioned (declared.put handle start) rest
  | rest => some (declared, rest)

/-- What the handle stands for. -/
def expansion? (declared : Handles) (handle : String) : Option TagName :=
  (declared.get? handle).or (ownHandles.get? handle)

/-! ### Properties -/

/-- The anchor and the tag before a node. -/
structure Properties where
  /-- The position of the anchor among all anchors. -/
  anchor : Option Nat := none
  tag : Option TagName := none

/-- The name of the type that a tag denotes. -/
def typeName (declared : Handles) (handle : String) (suffix : TagName) : Option TagName :=
  if handle.isEmpty then some suffix else (expansion? declared handle).map (· ++ suffix)

/-- An anchor, if there is one. -/
def anchor? : Reader (Option Nat) := do
  match ← peek with
  | some (.anchor name) =>
    skip
    modifyGet fun s => (some s.anchors.count, { s with anchors := s.anchors.declare name })
  | _ => return none

/-- A tag, if there is one. -/
def tag? (declared : Handles) : Reader (Option TagName) := do
  match ← peek with
  | some (.tag handle suffix) =>
    skip
    return some (← typeName declared handle suffix)
  | _ => return none

/-- An anchor and a tag in either order, each of which may be missing. -/
def properties (declared : Handles) : Reader Properties := do
  match ← anchor? with
  | some anchor => return { anchor, tag := ← tag? declared }
  | none =>
    let tag ← tag? declared
    return { anchor := ← anchor?, tag }

/-- The node is what the anchor marks. -/
def Properties.mark (p : Properties) (n : Node) : Reader Node := do
  if let some position := p.anchor then
    modify fun s => { s with anchors := s.anchors.complete position n }
  return n

/-- There is an anchor or a tag. -/
def Properties.isPresent (p : Properties) : Bool :=
  p.anchor.isSome || p.tag.isSome

/-- The name of its type that a scalar keeps.  The tag that is an exclamation mark only says
nothing. -/
def Properties.ownTag (p : Properties) : Option TagName :=
  p.tag.filter (· ≠ ascii "!")

/-! ### Nodes -/

/-- Where a node stands. -/
inductive Place where
  /-- Within a flow collection. -/
  | flow
  /-- As the item of a block sequence or as the whole document. -/
  | block
  /-- In a block mapping, where the items of a sequence need no indentation. -/
  | entry
deriving DecidableEq

mutual

/-- The next node. -/
def node (declared : Handles) : (depth : Nat) → Place → Reader Node
  | 0, _ => failure
  | depth + 1, place => do
    if let some (.alias name) ← peek then
      skip
      return .alias (← (← get).anchors.numbers.get? name)
    let p ← properties declared
    match ← peek with
    | some .item =>
      if place = .entry then p.mark (.sequence (← looseItems declared depth))
      else absent p
    | some (.scalar s) =>
      skip
      p.mark (.scalar s p.ownTag)
    | some .flowSequence =>
      skip
      p.mark (.sequence (← flowItems declared depth true))
    | some .flowMapping =>
      skip
      p.mark (.mapping (← flowEntries declared depth true))
    | some .blockSequence =>
      if place = .flow then absent p
      else
        skip
        p.mark (.sequence (← blockItems declared depth))
    | some .blockMapping =>
      if place = .flow then absent p
      else
        skip
        p.mark (.mapping (← blockEntries declared depth))
    | _ => absent p

/-- The node that has properties but no content. -/
def absent (p : Properties) : Reader Node :=
  if p.isPresent then p.mark (.empty p.tag) else failure

/-- The next node, or an empty one before the given tokens. -/
def nodeBefore (declared : Handles) : (depth : Nat) → Place → List Token → Reader Node
  | 0, _, _ => failure
  | depth + 1, place, ends => do
    if ← standsBefore ends then return .empty
    else node declared depth place

/-- The rest of a block sequence. -/
def blockItems (declared : Handles) : (depth : Nat) → Reader (List Node)
  | 0 => failure
  | depth + 1 => do
    if ← accept .item then
      let first ← nodeBefore declared depth .block [.item, .blockEnd]
      return first :: (← blockItems declared depth)
    else if ← accept .blockEnd then return []
    else failure

/-- The rest of a block sequence that is not indented. -/
def looseItems (declared : Handles) : (depth : Nat) → Reader (List Node)
  | 0 => failure
  | depth + 1 => do
    if ← accept .item then
      let first ← nodeBefore declared depth .block [.item, .key, .value, .blockEnd]
      return first :: (← looseItems declared depth)
    else return []

/-- The rest of a block mapping. -/
def blockEntries (declared : Handles) : (depth : Nat) → Reader (List (Node × Node))
  | 0 => failure
  | depth + 1 => do
    if ← accept .key then
      let key ← nodeBefore declared depth .entry [.key, .value, .blockEnd]
      let value ←
        if ← accept .value then nodeBefore declared depth .entry [.key, .value, .blockEnd]
        else pure .empty
      return (key, value) :: (← blockEntries declared depth)
    else if ← accept .blockEnd then return []
    else failure

/-- The rest of a flow sequence.  A key among its items begins a mapping of one entry. -/
def flowItems (declared : Handles) : (depth : Nat) → (isFirst : Bool) → Reader (List Node)
  | 0, _ => failure
  | depth + 1, isFirst => do
    if ← accept .flowSequenceEnd then return []
    if !isFirst then
      guard (← accept .comma)
      if ← accept .flowSequenceEnd then return []
    let item ← if ← accept .key then flowPair declared depth else node declared depth .flow
    return item :: (← flowItems declared depth false)

/-- The mapping of one entry within a flow sequence, behind the token for its key.  If the key
is empty, the token after it is passed over. -/
def flowPair (declared : Handles) : (depth : Nat) → Reader Node
  | 0 => failure
  | depth + 1 => do
    let key ←
      if ← standsBefore [.value, .comma, .flowSequenceEnd] then
        skip
        pure .empty
      else node declared depth .flow
    let value ←
      if ← accept .value then nodeBefore declared depth .flow [.comma, .flowSequenceEnd]
      else pure .empty
    return .mapping [(key, value)]

/-- The rest of a flow mapping. -/
def flowEntries (declared : Handles) :
    (depth : Nat) → (isFirst : Bool) → Reader (List (Node × Node))
  | 0, _ => failure
  | depth + 1, isFirst => do
    if ← accept .flowMappingEnd then return []
    if !isFirst then
      guard (← accept .comma)
      if ← accept .flowMappingEnd then return []
    let entry ←
      if ← accept .key then
        let key ← nodeBefore declared depth .flow [.value, .comma, .flowMappingEnd]
        let value ←
          if ← accept .value then nodeBefore declared depth .flow [.comma, .flowMappingEnd]
          else pure .empty
        pure (key, value)
      else
        pure (← node declared depth .flow, .empty)
    return entry :: (← flowEntries declared depth false)

end

/-! ### Documents -/

/-- The tokens before which a document has no content. -/
def endsContent : Option Token → Bool
  | none | some (.version _ _) | some (.shorthand _ _) | some .documentStart
  | some .documentEnd => true
  | _ => false

/-- The tokens at the front begin a document with a mark. -/
def isMarked : List Token → Bool
  | .version _ _ :: _ | .shorthand _ _ :: _ | .documentStart :: _ => true
  | _ => false

/-- The node of a document to which the tokens belong, apart from marks behind it. -/
def content (declared : Handles) (mayBeEmpty : Bool) (tokens : List Token) : Option Document := do
  let whole : Reader Node := do
    if mayBeEmpty && endsContent (← peek) then return .empty
    else node declared (3 * tokens.length + 3) .block
  let (root, s) ← whole.run { tokens }
  guard (s.tokens.all (· == .documentEnd))
  return { root := some root, anchors := s.anchors }

/-- The document that the tokens describe. -/
def document (tokens : List Token) : Option Document :=
  if tokens.isEmpty then some { root := none }
  else if isMarked tokens then do
    match ← directives false [] tokens with
    | (declared, .documentStart :: rest) => content declared true rest
    | _ => none
  else content [] false tokens

end Reader

/-- The document with the given characters. -/
def Document.ofChars? (cs : List Char) : Option Document := do
  Reader.document (← tokens? cs)

end Agenda.Yaml
