import Agenda.Json.Token

/-!
# Documents of JSON

`Document.ofTokens?` reads the single value that a list of tokens spells.  It keeps the
brackets that are open around its place in a stack, so nesting has no limit.
-/

namespace Agenda.Json

open Text (Symbol)

/-- A value.  String literals are kept as they are written, and so are the keys of an
object, with their order and their repetitions. -/
inductive Document where
  | null
  | bool (value : Bool)
  | number (digits : List Char)
  | string (content : List Symbol)
  | array (items : List Document)
  | object (members : List (List Symbol × Document))
deriving Repr

namespace Document

/-- An open bracket with what stands in it already, the last part first.  In an object, the
key is the one whose value is being read. -/
inductive Frame where
  | array (items : List Document)
  | object (members : List (List Symbol × Document)) (key : List Symbol)

/-- What has to come next. -/
inductive Expected where
  /-- A value. -/
  | value
  /-- The first item of an array, or its end. -/
  | item
  /-- The first key of an object, or its end. -/
  | member
  /-- A further key of an object. -/
  | key (members : List (List Symbol × Document))
  /-- The colon after a key. -/
  | colon (members : List (List Symbol × Document)) (key : List Symbol)
  /-- What may follow a value. -/
  | rest (value : Document)

/-- The value that a token is on its own. -/
def ofToken? : Token → Option Document
  | .literal content => some (.string content)
  | .number digits => some (.number digits)
  | .true => some (.bool true)
  | .false => some (.bool false)
  | .null => some .null
  | _ => none

/-- The brackets open and the expectation after a token at which a value begins. -/
def begin? (token : Token) (frames : List Frame) : Option (List Frame × Expected) :=
  match token with
  | .arrayOpen => some (.array [] :: frames, .item)
  | .objectOpen => some (frames, .member)
  | token => (ofToken? token).map fun value => (frames, .rest value)

/-- The brackets open and the expectation after one more token. -/
def advance? (token : Token) (frames : List Frame) (expected : Expected) :
    Option (List Frame × Expected) :=
  match expected, token, frames with
  | .value, token, frames => begin? token frames
  | .item, .arrayClose, .array _ :: frames => some (frames, .rest (.array []))
  | .item, token, frames => begin? token frames
  | .member, .objectClose, frames => some (frames, .rest (.object []))
  | .member, .literal key, frames => some (frames, .colon [] key)
  | .key members, .literal key, frames => some (frames, .colon members key)
  | .colon members key, .colon, frames => some (.object members key :: frames, .value)
  | .rest value, .comma, .array items :: frames => some (.array (value :: items) :: frames, .value)
  | .rest value, .arrayClose, .array items :: frames =>
    some (frames, .rest (.array (value :: items).reverse))
  | .rest value, .comma, .object members key :: frames =>
    some (frames, .key ((key, value) :: members))
  | .rest value, .objectClose, .object members key :: frames =>
    some (frames, .rest (.object ((key, value) :: members).reverse))
  | _, _, _ => none

/-- The value that the tokens complete. -/
def read? : List Token → List Frame → Expected → Option Document
  | [], [], .rest value => some value
  | [], _, _ => none
  | token :: tokens, frames, expected =>
    (advance? token frames expected).bind fun next => read? tokens next.1 next.2

/-- The value that the tokens spell. -/
def ofTokens? (tokens : List Token) : Option Document :=
  read? tokens [] .value

/-- The value that a text spells. -/
def ofSymbols? (s : List Symbol) : Option Document :=
  (tokens? s).bind ofTokens?

end Document

end Agenda.Json
