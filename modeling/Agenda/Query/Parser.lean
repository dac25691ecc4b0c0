import Agenda.Query.Segment

/-!
# Reading queries

A statement is `SELECT * FROM tasks`, alone or followed by `WHERE` and a condition.  The
words are keywords, with blanks between them; no blank is needed before `WHERE`.  The
condition begins with a character that is not blank and has no line feed.  It is cut into
segments, and each of them has to be a predicate: a field, an operator and an operand.

`parse` reports the first segment that is not a predicate, or else the whole query when it
does not have the form of a statement.
-/

namespace Agenda.Query

/-! ### Predicates -/

/-- The text without the quote at its front, unless that is all of it. -/
def dropLeading (quote : Char) : List Char → List Char
  | c :: d :: rest => if c = quote then d :: rest else c :: d :: rest
  | s => s

/-- The text without the quote at its end, unless that is all of it. -/
def dropTrailing (quote : Char) (s : List Char) : List Char :=
  (dropLeading quote s.reverse).reverse

/-- The value that an operand denotes: one quote of each kind is dropped at either end. -/
def unquote (operand : List Char) : List Char :=
  dropTrailing '\'' (dropTrailing '"' (dropLeading '"' (dropLeading '\'' operand)))

/-- The operator at the front of the text and what follows it. -/
def operator? (text : List Char) : Option (Operator × List Char) :=
  match text with
  | '=' :: rest => some (.equals, rest)
  | _ => (Text.keyword? ['L', 'I', 'K', 'E'] text).map (.contains, ·)

/-- The operator and the operand in what follows a field. -/
def comparison? (text : List Char) : Option (Operator × List Char) := do
  let (operator, rest) ← operator? (Text.dropBlanks text)
  let operand := Text.dropBlanks rest
  if operand.isEmpty || operand.contains '\n' then none else some (operator, operand)

/-- The predicate whose field is the longest front of the text, of at most the given length,
that a comparison follows. -/
def predicateWithin? (text : List Char) : (length : Nat) → Option Predicate
  | 0 => none
  | length + 1 =>
    ((comparison? (text.drop (length + 1))).map fun (operator, operand) =>
      ⟨String.ofList (text.take (length + 1)), operator, String.ofList (unquote operand)⟩).orElse
    fun _ => predicateWithin? text length

/-- The predicate that a trimmed segment is, if it is one. -/
def predicate? (segment : List Char) : Option Predicate :=
  predicateWithin? segment (segment.takeWhile Text.isFieldLetter).length

/-- The predicate that a segment is. -/
def parseSegment (segment : List Char) : Except Error Predicate :=
  match predicate? segment with
  | some p => .ok p
  | none => .error (.unsupportedClause (String.ofList segment))

/-- The predicate that a text is, regardless of blanks around it. -/
def parsePredicate (text : String) : Except Error Predicate :=
  parseSegment (Text.trimChars text.toList)

/-! ### Statements -/

/-- What follows `SELECT * FROM tasks` at the front of the text. -/
def afterTable? (text : List Char) : Option (List Char) := do
  let text ← Text.gap? (← Text.keyword? ['S', 'E', 'L', 'E', 'C', 'T'] text)
  let text ← Text.gap? (← Text.keyword? ['*'] text)
  let text ← Text.gap? (← Text.keyword? ['F', 'R', 'O', 'M'] text)
  Text.keyword? ['T', 'A', 'S', 'K', 'S'] text

/-- The text of the condition that `WHERE` introduces at the front of the text. -/
def conditionText? (text : List Char) : Option (List Char) := do
  let condition ← Text.gap? (← Text.keyword? ['W', 'H', 'E', 'R', 'E'] text)
  if condition.isEmpty || condition.contains '\n' then none else some condition

/-- The condition that a text is. -/
def parseCondition (text : List Char) : Except Error Condition := do
  let segments := cut text
  let first ← parseSegment segments.head
  let rest ← segments.tail.mapM fun (joint, segment) => do
    return (joint, ← parseSegment segment)
  return ⟨first, rest⟩

/-- The statement that a query is, regardless of blanks around it. -/
def parse (query : String) : Except Error Statement :=
  match afterTable? (Text.trimChars query.toList) with
  | none => .error (.unsupportedStatement query)
  | some rest =>
    match Text.dropBlanks rest with
    | [] => .ok ⟨none⟩
    | clause =>
      match conditionText? clause with
      | none => .error (.unsupportedStatement query)
      | some text => do return ⟨some (← parseCondition text)⟩

end Agenda.Query
