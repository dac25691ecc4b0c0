import Agenda.Json.Literal
import Mathlib.Tactic.Use

/-!
# Written literals

A text that is written as a literal is read back: the first quote that is not escaped is the
one that ends the literal, and what stands before it denotes the text.  Both facts are
proved one written character at a time.
-/

namespace Agenda.Json

open Text (Symbol)

/-! ### Characters of a literal -/

theorem hexDigit?_hexDigit {n : Nat} (h : n < 16) :
  hexDigit? (.char (hexDigit n)) = some n
  := by
  have hall : ∀ m : Fin 16, hexDigit? (.char (hexDigit m)) = some m.val := by decide
  apply hall ⟨n, h⟩

/-- The four digits after a `u` denote the character for which they are written. -/
theorem codeUnit?_hexDigit {n : Nat} (h : n < 256) :
  codeUnit? (.char '0') (.char '0') (.char (hexDigit (n / 16))) (.char (hexDigit (n % 16))) = some n
  := by
  have hzero : hexDigit? (.char '0') = some 0 := by decide
  simp only [codeUnit?, hzero, hexDigit?_hexDigit (show n / 16 < 16 by omega),
    hexDigit?_hexDigit (show n % 16 < 16 by omega), Option.bind_some, Option.map_some]
  congr 1
  omega

/-- How a character is written: escaped by a letter, escaped by its number, or as it is. -/
theorem escapeChar_cases (c : Char) :
  (∃ e, shortEscape? e = some c ∧ e ≠ 'u' ∧ escapeChar c = ['\\', e])
    ∨ (c < ' ' ∧ escapeChar c =
        ['\\', 'u', '0', '0', hexDigit (c.toNat / 16), hexDigit (c.toNat % 16)])
    ∨ (¬ c < ' ' ∧ c ≠ '"' ∧ c ≠ '\\' ∧ escapeChar c = [c])
  := by
  unfold escapeChar
  split
  case h_8 =>
    right
    split
    · left
      simp_all
    · right
      simp_all
  all_goals left
  · use '"'
    decide
  · use '\\'
    decide
  · use 'b'
    decide
  · use 'f'
    decide
  · use 'n'
    decide
  · use 'r'
    decide
  · use 't'
    decide

/-- A control character has a number below that of the blank. -/
theorem toNat_lt_of_lt_blank {c : Char} (h : c < ' ') :
  c.toNat < 32
  := h

theorem escape_cons (c : Char) (s : List Char) :
  escape (c :: s) = escapeChar c ++ escape s
  := rfl

/-! ### The end of a literal -/

/-- A written character does not end a literal. -/
theorem closing?_escapeChar (c : Char) (rest : List Symbol) :
  closing? ((escapeChar c).map .char ++ rest)
    = (closing? rest).map fun found => ((escapeChar c).map .char ++ found.1, found.2)
  := by
  obtain ⟨e, he, hu, hc⟩ | ⟨hlt, hc⟩ | ⟨hge, hquote, hslash, hc⟩ := escapeChar_cases c
  · rw [hc]
    simp [closing?, hu, he]
  · have hunit := codeUnit?_hexDigit (Nat.lt_trans (toNat_lt_of_lt_blank hlt) (by decide))
    rw [hc]
    simp [closing?, hunit]
  · rw [hc]
    simp [closing?, hslash, hge]

/-- The quote after a written text ends the literal. -/
theorem closing?_escape (s : List Char) (rest : List Symbol) :
  closing? ((escape s).map .char ++ .char '"' :: rest) = some ((escape s).map .char, rest)
  := by
  induction s with
  | nil => simp [escape, closing?]
  | cons c s ih =>
    rw [escape_cons, List.map_append, List.append_assoc, closing?_escapeChar, ih]
    rfl

/-! ### The text of a literal -/

/-- A written character denotes itself. -/
theorem decode?_escapeChar (c : Char) (rest : List Symbol) :
  decode? ((escapeChar c).map .char ++ rest) = (decode? rest).map (c :: ·)
  := by
  obtain ⟨e, he, hu, hc⟩ | ⟨hlt, hc⟩ | ⟨hge, hquote, hslash, hc⟩ := escapeChar_cases c
  · rw [hc]
    simp [decode?, hu, he]
  · have hsmall := toNat_lt_of_lt_blank hlt
    have hunit := codeUnit?_hexDigit (Nat.lt_trans hsmall (show 32 < 256 by decide))
    rw [hc]
    simp [decode?, hunit]
    omega
  · rw [hc]
    simp [decode?, hslash]

/-- A written text denotes itself. -/
theorem decode?_escape (s : List Char) :
  decode? ((escape s).map .char) = some s
  := by
  induction s with
  | nil => simp [escape, decode?]
  | cons c s ih =>
    rw [escape_cons, List.map_append, decode?_escapeChar, ih]
    rfl

end Agenda.Json
