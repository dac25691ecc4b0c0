import Agenda.Bindings
import Agenda.Yaml.Token

/-!
# Nodes

What a YAML document says: a tree of scalars, sequences and mappings, in which an alias
stands for a node that is anchored elsewhere in the document.
-/

namespace Agenda.Yaml

/-- The value that a document or a part of it describes. -/
inductive Node where
  /-- The node with the anchor of that number. -/
  | alias (anchor : Nat)
  /-- A text, and the name of its type if it has one of its own. -/
  | scalar (s : Scalar) (tag : Option TagName)
  | sequence (items : List Node)
  | mapping (entries : List (Node × Node))

/-- The plain scalar without any text. -/
def Node.empty (tag : Option TagName := none) : Node :=
  .scalar ⟨"", .plain⟩ tag

/-- The anchors of a document.  An anchor has the number of names that were in use before it.
So a name that is used again makes two anchors share a number, and the later one counts. -/
structure Anchors where
  /-- The number that belongs to each name. -/
  numbers : Bindings Nat := []
  /-- The last anchor with each number, as a position among all anchors. -/
  latest : List (Nat × Nat) := []
  /-- The nodes of the anchors by position, as far as they are complete. -/
  nodes : List (Nat × Node) := []
  count : Nat := 0

namespace Anchors

/-- The anchors with one more of the given name. -/
def declare (a : Anchors) (name : String) : Anchors :=
  let number := a.numbers.length
  { a with
    numbers := a.numbers.put name number
    latest := (number, a.count) :: a.latest
    count := a.count + 1 }

/-- The node of the anchor at the position is complete. -/
def complete (a : Anchors) (position : Nat) (n : Node) : Anchors :=
  { a with nodes := (position, n) :: a.nodes }

/-- The node to which an alias refers. -/
def target? (a : Anchors) (number : Nat) : Option Node :=
  (List.lookup number a.latest).bind fun position => List.lookup position a.nodes

end Anchors

/-- A document: its only node, or nothing if it has no content at all, and its anchors. -/
structure Document where
  root : Option Node
  anchors : Anchors := {}

/-- The node itself, or the one to which it refers as an alias. -/
def Document.resolve (d : Document) : Node → Option Node
  | .alias number => d.anchors.target? number
  | n => some n

end Agenda.Yaml
