import Agenda.Text.Symbols

/-!
# Bytes that are no text

Where a string of bytes ceases to be the encoding of a text, and what is wrong there.
-/

namespace Agenda.Text

/-- A place at which bytes are no text. -/
structure Damage where
  /-- The number of bytes before that encode a text. -/
  index : Nat
  /-- How many bytes cannot be part of a character; none if the bytes end within one. -/
  length : Option Nat
deriving DecidableEq, Repr

/-- The least and the greatest second byte of a character that begins with the byte. -/
def secondRange (first : Nat) : Nat × Nat :=
  if first = 0xE0 then (0xA0, 0xBF)
  else if first = 0xED then (0x80, 0x9F)
  else if first = 0xF0 then (0x90, 0xBF)
  else if first = 0xF4 then (0x80, 0x8F)
  else (0x80, 0xBF)

/-- How many bytes a character has that begins with the byte; zero if none does. -/
def encodedSize (first : Nat) : Nat :=
  if first < 0x80 then 1
  else if 0xC2 ≤ first ∧ first ≤ 0xDF then 2
  else if 0xE0 ≤ first ∧ first ≤ 0xEF then 3
  else if 0xF0 ≤ first ∧ first ≤ 0xF4 then 4
  else 0

/-- How many of the bytes belong to a beginning of a character, of which `due` bytes have not
been seen; none if they all do. -/
def continued (seen : Nat) : (due : Nat) → List UInt8 → Option Nat
  | 0, _ => some seen
  | _ + 1, [] => none
  | due + 1, b :: rest =>
    if 0x80 ≤ b.toNat ∧ b.toNat ≤ 0xBF then continued (seen + 1) due rest else some seen

/-- How many bytes at the front cannot be part of a character; none if they end within one. -/
def damagedLength : List UInt8 → Option Nat
  | [] => none
  | first :: rest =>
    if encodedSize first.toNat < 2 then some 1
    else
      match rest with
      | [] => none
      | second :: rest =>
        let (least, greatest) := secondRange first.toNat
        if least ≤ second.toNat ∧ second.toNat ≤ greatest then
          continued 2 (encodedSize first.toNat - 2) rest
        else some 1

/-- The number of bytes of the characters at the front. -/
def textSize : List Symbol → Nat
  | .char c :: rest => c.utf8Size + textSize rest
  | _ => 0

/-- Where the bytes cease to be a text, provided that they do. -/
def damage (bytes : ByteArray) : Damage :=
  let index := textSize (symbols bytes)
  ⟨index, damagedLength (bytes.toList.drop index)⟩

/-- The wording of what is wrong. -/
def Damage.message (d : Damage) : String :=
  match d.length with
  | some length =>
    "invalid utf-8 sequence of " ++ toString length ++ " bytes from index " ++ toString d.index
  | none => "incomplete utf-8 byte sequence from index " ++ toString d.index

end Agenda.Text
