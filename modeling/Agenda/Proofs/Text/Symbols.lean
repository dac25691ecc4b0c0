import Agenda.Text.Symbols

/-!
# Symbols of a text

The bytes of a text are read as its characters.
-/

namespace Agenda.Text

theorem size_encode_singleton (c : Char) :
  [c].utf8Encode.size = c.utf8Size
  := by
  simp [List.utf8Encode_singleton]

theorem symbolsFrom_size (bytes : ByteArray) :
  symbolsFrom bytes bytes.size = []
  := by
  rw [symbolsFrom, dif_neg (Nat.lt_irrefl bytes.size)]

/-- Where the encoding of a character stands, the character is read. -/
theorem symbolsFrom_encode_cons (before after : ByteArray) (c : Char) :
  symbolsFrom (before ++ ([c].utf8Encode ++ after)) before.size
    = .char c :: symbolsFrom (before ++ ([c].utf8Encode ++ after)) (before.size + c.utf8Size)
  := by
  have hsize : before.size < (before ++ ([c].utf8Encode ++ after)).size := by
    have := c.utf8Size_pos
    rw [ByteArray.size_append, ByteArray.size_append, size_encode_singleton]
    omega
  have hdecode : (before ++ ([c].utf8Encode ++ after)).utf8DecodeChar? before.size = some c := by
    rw [ByteArray.utf8DecodeChar?_eq_utf8DecodeChar?_extract,
      ByteArray.extract_append_eq_right rfl ByteArray.size_append,
      List.utf8DecodeChar?_utf8Encode_singleton_append]
  rw [symbolsFrom, dif_pos hsize]
  simp only [hdecode]

/-- The characters whose encoding follows some bytes are read from there. -/
theorem symbolsFrom_encode (before : ByteArray) (s : List Char) :
  symbolsFrom (before ++ s.utf8Encode) before.size = s.map .char
  := by
  induction s generalizing before with
  | nil =>
    rw [List.utf8Encode_nil, ByteArray.append_empty]
    apply symbolsFrom_size
  | cons c s ih =>
    rw [List.utf8Encode_cons, symbolsFrom_encode_cons, List.map_cons]
    congr 1
    rw [← size_encode_singleton, ← ByteArray.size_append, ← ByteArray.append_assoc]
    apply ih

theorem symbols_toUTF8 (s : String) :
  symbols s.toUTF8 = s.toList.map .char
  := by
  have h := symbolsFrom_encode ByteArray.empty s.toList
  rw [ByteArray.empty_append, String.utf8Encode_toList] at h
  apply h

end Agenda.Text
