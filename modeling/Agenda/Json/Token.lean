import Agenda.Json.Literal

/-!
# Tokens of JSON

A document is read in two steps.  Here it is cut into tokens: brackets, commas and colons,
string literals, numbers and the three words.  The blanks of the format, which are fewer
than those of Unicode, may stand between tokens and are dropped.  A string literal is kept
as it is written, and a number as its characters.
-/

namespace Agenda.Json

open Text (Symbol)

/-- A token of a document. -/
inductive Token where
  | arrayOpen
  | arrayClose
  | objectOpen
  | objectClose
  | comma
  | colon
  | literal (content : List Symbol)
  | number (digits : List Char)
  | true
  | false
  | null
deriving DecidableEq, Repr

/-- The blanks that may stand between tokens. -/
def isGap : Symbol → Bool
  | .char c => c == ' ' || c == '\n' || c == '\r' || c == '\t'
  | .byte _ => false

/-- The digits at the front of the text and what follows them. -/
def digits : List Symbol → List Char × List Symbol
  | .char c :: rest =>
    if c.isDigit then (c :: (digits rest).1, (digits rest).2) else ([], .char c :: rest)
  | s => ([], s)

/-- The digits at the front of the text, of which there is at least one, and what follows
them. -/
def someDigits? (s : List Symbol) : Option (List Char × List Symbol) :=
  if (digits s).1.isEmpty then none else some (digits s)

/-- The sign of an exponent at the front of the text and what follows it. -/
def exponentSign : List Symbol → List Char × List Symbol
  | .char '+' :: rest => (['+'], rest)
  | .char '-' :: rest => (['-'], rest)
  | s => ([], s)

/-- The exponent at the front of the text, if there is one, and what follows it. -/
def exponent? : List Symbol → Option (List Char × List Symbol)
  | .char c :: rest =>
    if c = 'e' ∨ c = 'E' then
      (someDigits? (exponentSign rest).2).map fun found =>
        (c :: ((exponentSign rest).1 ++ found.1), found.2)
    else some ([], .char c :: rest)
  | s => some ([], s)

/-- The fraction at the front of the text, if there is one, and what follows it. -/
def fraction? : List Symbol → Option (List Char × List Symbol)
  | .char '.' :: rest => (someDigits? rest).map fun found => ('.' :: found.1, found.2)
  | s => some ([], s)

/-- The whole part of a number at the front of the text and what follows it: a zero, or
digits of which the first is not zero. -/
def whole? : List Symbol → Option (List Char × List Symbol)
  | .char '0' :: rest => some (['0'], rest)
  | s => someDigits? s

/-- The number without sign at the front of the text and what follows it. -/
def unsigned? (s : List Symbol) : Option (List Char × List Symbol) :=
  (whole? s).bind fun whole => (fraction? whole.2).bind fun fraction =>
    (exponent? fraction.2).map fun exponent =>
      (whole.1 ++ fraction.1 ++ exponent.1, exponent.2)

/-- What follows the word at the front of the text. -/
def word? : List Char → List Symbol → Option (List Symbol)
  | [], rest => some rest
  | w :: word, .char c :: rest => if c = w then word? word rest else none
  | _ :: _, _ => none

/-- The token at the front of the text and what follows it. -/
def token? : List Symbol → Option (Token × List Symbol)
  | .char '[' :: rest => some (.arrayOpen, rest)
  | .char ']' :: rest => some (.arrayClose, rest)
  | .char '\x7b' :: rest => some (.objectOpen, rest)
  | .char '\x7d' :: rest => some (.objectClose, rest)
  | .char ',' :: rest => some (.comma, rest)
  | .char ':' :: rest => some (.colon, rest)
  | .char '"' :: rest => (closing? rest).map fun found => (.literal found.1, found.2)
  | .char 't' :: rest => (word? ['r', 'u', 'e'] rest).map (.true, ·)
  | .char 'f' :: rest => (word? ['a', 'l', 's', 'e'] rest).map (.false, ·)
  | .char 'n' :: rest => (word? ['u', 'l', 'l'] rest).map (.null, ·)
  | .char '-' :: rest => (unsigned? rest).map fun found => (.number ('-' :: found.1), found.2)
  | s => (unsigned? s).map fun found => (.number found.1, found.2)

/-! ### Every token takes at least one symbol -/

theorem length_digits (s : List Symbol) :
  (digits s).1.length + (digits s).2.length = s.length
  := by
  fun_induction digits s with
  | case1 c rest _ ih => simp only [List.length_cons]; omega
  | case2 => simp
  | case3 => simp

theorem length_lt_of_someDigits? {s : List Symbol} {found : List Char × List Symbol}
    (h : someDigits? s = some found) :
  found.2.length < s.length
  := by
  unfold someDigits? at h
  split at h
  · contradiction
  · next hne =>
    injection h with h
    subst h
    have hlength := length_digits s
    have : 0 < (digits s).1.length := List.length_pos_iff.2 (by simpa using hne)
    omega

theorem length_le_of_exponent? {s : List Symbol} {found : List Char × List Symbol}
    (h : exponent? s = some found) :
  found.2.length ≤ s.length
  := by
  unfold exponent? at h
  split at h
  · split at h
    · next c rest _ =>
      obtain ⟨later, hlater, rfl⟩ := Option.map_eq_some_iff.1 h
      have hshort := length_lt_of_someDigits? hlater
      have hsign : (exponentSign rest).2.length ≤ rest.length := by
        unfold exponentSign
        split <;> simp
      simp only [List.length_cons]
      omega
    · injection h with h
      subst h
      simp
  · injection h with h
    subst h
    simp

theorem length_le_of_fraction? {s : List Symbol} {found : List Char × List Symbol}
    (h : fraction? s = some found) :
  found.2.length ≤ s.length
  := by
  unfold fraction? at h
  split at h
  · obtain ⟨later, hlater, rfl⟩ := Option.map_eq_some_iff.1 h
    have := length_lt_of_someDigits? hlater
    simp only [List.length_cons]
    omega
  · injection h with h
    subst h
    simp

theorem length_lt_of_whole? {s : List Symbol} {found : List Char × List Symbol}
    (h : whole? s = some found) :
  found.2.length < s.length
  := by
  unfold whole? at h
  split at h
  · injection h with h
    subst h
    simp
  · exact length_lt_of_someDigits? h

theorem length_lt_of_unsigned? {s : List Symbol} {found : List Char × List Symbol}
    (h : unsigned? s = some found) :
  found.2.length < s.length
  := by
  simp only [unsigned?, Option.bind_eq_some_iff, Option.map_eq_some_iff] at h
  obtain ⟨whole, hwhole, fraction, hfraction, exponent, hexponent, rfl⟩ := h
  have := length_lt_of_whole? hwhole
  have := length_le_of_fraction? hfraction
  have := length_le_of_exponent? hexponent
  simp only
  omega

theorem length_le_of_word? {word : List Char} {s rest : List Symbol}
    (h : word? word s = some rest) :
  rest.length ≤ s.length
  := by
  fun_induction word? word s with
  | case1 => simp_all
  | case2 _ _ _ ih => exact Nat.le_succ_of_le (ih h)
  | case3 => simp at h
  | case4 => simp at h

/-- What follows a token is shorter than the text. -/
theorem length_lt_of_token? {s : List Symbol} {found : Token × List Symbol}
    (h : token? s = some found) :
  found.2.length < s.length
  := by
  unfold token? at h
  split at h
  case h_7 =>
    obtain ⟨later, hlater, rfl⟩ := Option.map_eq_some_iff.1 h
    exact Nat.lt_succ_of_lt (length_lt_of_closing? hlater)
  case h_11 =>
    obtain ⟨later, hlater, rfl⟩ := Option.map_eq_some_iff.1 h
    exact Nat.lt_succ_of_lt (length_lt_of_unsigned? hlater)
  case h_12 =>
    obtain ⟨later, hlater, rfl⟩ := Option.map_eq_some_iff.1 h
    exact length_lt_of_unsigned? hlater
  case h_8 | h_9 | h_10 =>
    obtain ⟨later, hlater, rfl⟩ := Option.map_eq_some_iff.1 h
    exact Nat.lt_succ_of_le (length_le_of_word? hlater)
  all_goals
    injection h with h
    subst h
    simp

/-- The tokens of a text, if it consists of tokens and blanks only. -/
def tokens? (s : List Symbol) : Option (List Token) :=
  match s with
  | [] => some []
  | symbol :: rest =>
    if isGap symbol then tokens? rest
    else match _h : token? (symbol :: rest) with
      | none => none
      | some (token, later) => (tokens? later).map (token :: ·)
termination_by s.length
decreasing_by
  · exact Nat.lt_succ_self rest.length
  · exact length_lt_of_token? _h

end Agenda.Json
