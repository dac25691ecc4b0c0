import Agenda.Text.Symbols

/-!
# String literals of JSON

What stands between the quotes of a literal is kept as it is written.  `closing?` finds the
quote that ends a literal and only checks the form of the escapes.  `decode?` gives the text
that a literal denotes; it refuses bytes that encode no character and surrogates that do
not pair up.  So a literal whose text is not needed may hold both.

`escape` writes a text as a literal: the quote, the backslash and the control characters
below the blank are escaped, by a letter where there is one and by four hexadecimal digits
otherwise.
-/

namespace Agenda.Json

open Text (Symbol)

/-- The value of a hexadecimal digit in either letter case. -/
def hexDigit? : Symbol → Option Nat
  | .char c =>
    if '0' ≤ c ∧ c ≤ '9' then some (c.toNat - '0'.toNat)
    else if 'a' ≤ c ∧ c ≤ 'f' then some (c.toNat - 'a'.toNat + 10)
    else if 'A' ≤ c ∧ c ≤ 'F' then some (c.toNat - 'A'.toNat + 10)
    else none
  | .byte _ => none

/-- The value of four hexadecimal digits. -/
def codeUnit? (a b c d : Symbol) : Option Nat :=
  (hexDigit? a).bind fun a => (hexDigit? b).bind fun b =>
    (hexDigit? c).bind fun c => (hexDigit? d).map fun d => ((a * 16 + b) * 16 + c) * 16 + d

/-- The character that a letter after a backslash denotes. -/
def shortEscape? : Char → Option Char
  | '"' => some '"'
  | '\\' => some '\\'
  | '/' => some '/'
  | 'b' => some '\x08'
  | 'f' => some '\x0C'
  | 'n' => some '\n'
  | 'r' => some '\r'
  | 't' => some '\t'
  | _ => none

/-- The literal that the first quote ends, and what follows the quote.  The escapes of the
literal are well-formed and it has no control characters below the blank. -/
def closing? : List Symbol → Option (List Symbol × List Symbol)
  | [] => none
  | .char '"' :: rest => some ([], rest)
  | .char '\\' :: .char 'u' :: a :: b :: c :: d :: rest =>
    if (codeUnit? a b c d).isSome then
      (closing? rest).map fun found =>
        (.char '\\' :: .char 'u' :: a :: b :: c :: d :: found.1, found.2)
    else none
  | .char '\\' :: .char e :: rest =>
    if (shortEscape? e).isSome then
      (closing? rest).map fun found => (.char '\\' :: .char e :: found.1, found.2)
    else none
  | .char c :: rest =>
    if c = '\\' ∨ c < ' ' then none
    else (closing? rest).map fun found => (.char c :: found.1, found.2)
  | .byte b :: rest => (closing? rest).map fun found => (.byte b :: found.1, found.2)

/-- The character that a leading and a trailing surrogate denote. -/
def ofSurrogates (high low : Nat) : Char :=
  Char.ofNat (0x10000 + (high - 0xD800) * 0x400 + (low - 0xDC00))

/-- The text that a literal denotes. -/
def decode? : List Symbol → Option (List Char)
  | [] => some []
  | .char '\\' :: .char 'u' :: a :: b :: c :: d :: rest =>
    (codeUnit? a b c d).bind fun unit =>
      if unit < 0xD800 ∨ 0xE000 ≤ unit then (decode? rest).map (Char.ofNat unit :: ·)
      else if 0xDC00 ≤ unit then none
      else match rest with
        | .char '\\' :: .char 'u' :: e :: f :: g :: h :: rest =>
          (codeUnit? e f g h).bind fun low =>
            if 0xDC00 ≤ low ∧ low < 0xE000 then
              (decode? rest).map (ofSurrogates unit low :: ·)
            else none
        | _ => none
  | .char '\\' :: .char e :: rest =>
    (shortEscape? e).bind fun c => (decode? rest).map (c :: ·)
  | .char c :: rest => if c = '\\' then none else (decode? rest).map (c :: ·)
  | .byte _ :: _ => none

/-- A hexadecimal digit, in small letters. -/
def hexDigit (n : Nat) : Char :=
  if n < 10 then Char.ofNat ('0'.toNat + n) else Char.ofNat ('a'.toNat + (n - 10))

/-- The written form of a character within a literal. -/
def escapeChar (c : Char) : List Char :=
  match c with
  | '"' => ['\\', '"']
  | '\\' => ['\\', '\\']
  | '\x08' => ['\\', 'b']
  | '\x0C' => ['\\', 'f']
  | '\n' => ['\\', 'n']
  | '\r' => ['\\', 'r']
  | '\t' => ['\\', 't']
  | c =>
    if c < ' ' then ['\\', 'u', '0', '0', hexDigit (c.toNat / 16), hexDigit (c.toNat % 16)]
    else [c]

/-- The written form of a text within a literal. -/
def escape (s : List Char) : List Char :=
  s.flatMap escapeChar

/-- The text as a literal with its quotes. -/
def quote (s : String) : List Char :=
  '"' :: (escape s.toList ++ ['"'])

/-- What follows a literal is shorter than what its first quote opens. -/
theorem length_lt_of_closing? {s : List Symbol} {found : List Symbol × List Symbol}
    (h : closing? s = some found) :
  found.2.length < s.length
  := by
  fun_induction closing? s generalizing found with
  | case1 => simp at h
  | case2 rest =>
    injection h with h
    subst h
    simp
  | case3 a b c d rest _ ih =>
    obtain ⟨later, hlater, rfl⟩ := Option.map_eq_some_iff.1 h
    have := ih hlater
    simp only [List.length_cons]
    omega
  | case4 => simp at h
  | case5 e rest _ _ ih =>
    obtain ⟨later, hlater, rfl⟩ := Option.map_eq_some_iff.1 h
    have := ih hlater
    simp only [List.length_cons]
    omega
  | case6 => simp at h
  | case7 => simp at h
  | case8 c rest _ _ _ _ ih =>
    obtain ⟨later, hlater, rfl⟩ := Option.map_eq_some_iff.1 h
    have := ih hlater
    simp only [List.length_cons]
    omega
  | case9 b rest ih =>
    obtain ⟨later, hlater, rfl⟩ := Option.map_eq_some_iff.1 h
    have := ih hlater
    simp only [List.length_cons]
    omega

end Agenda.Json
