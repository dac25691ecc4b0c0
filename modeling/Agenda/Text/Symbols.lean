/-!
# Bytes as symbols

A file is a string of bytes, and not every string of bytes is the encoding of a text.
`symbols` reads bytes as characters as far as it can: where no character is encoded, the
byte stands for itself.  The bytes of a text are read as the characters of that text.
-/

namespace Agenda.Text

/-- A character, or a byte that is not part of the encoding of one. -/
inductive Symbol where
  | char (c : Char)
  | byte (b : UInt8)
deriving DecidableEq, Repr

/-- The symbols of the bytes from the given position on. -/
def symbolsFrom (bytes : ByteArray) (start : Nat) : List Symbol :=
  if h : start < bytes.size then
    match bytes.utf8DecodeChar? start with
    | some c =>
      have : 0 < c.utf8Size := c.utf8Size_pos
      .char c :: symbolsFrom bytes (start + c.utf8Size)
    | none => .byte bytes[start] :: symbolsFrom bytes (start + 1)
  else []
termination_by bytes.size - start

/-- The symbols of the bytes. -/
def symbols (bytes : ByteArray) : List Symbol :=
  symbolsFrom bytes 0

end Agenda.Text
