import Agenda.Query.Basic
import Agenda.Text.Blank
import Agenda.Text.Keyword

/-!
# The segments of a condition

A separator is a connective in any letter case with at least one blank on either side.
The text of a condition is cut at its separators from left to right.  A separator takes all
blanks that follow it, so the blanks between two adjacent connectives belong to the first
and the second is left as text.  The pieces are the segments; they are trimmed.
-/

namespace Agenda.Query

/-- The texts between the separators, with the connectives between them. -/
structure Cut where
  head : List Char
  tail : List (Connective × List Char)
deriving DecidableEq, Repr

/-- The connective at the front of the text and what follows it. -/
def connective? (text : List Char) : Option (Connective × List Char) :=
  match Text.keyword? ['A', 'N', 'D'] text with
  | some rest => some (.and, rest)
  | none => (Text.keyword? ['O', 'R'] text).map (.or, ·)

/-- The connective of the separator at the front of the text and what follows the
separator. -/
def separator? (text : List Char) : Option (Connective × List Char) :=
  ((Text.gap? text).bind connective?).bind fun found =>
    (Text.gap? found.2).map (found.1, ·)

/-- The text before the first separator, its connective and the text after it. -/
def firstSeparator? : List Char → Option (List Char × Connective × List Char)
  | [] => none
  | c :: text =>
    ((separator? (c :: text)).map ([], ·)).orElse fun _ =>
      (firstSeparator? text).map fun found => (c :: found.1, found.2)

theorem length_lt_of_connective? {text rest : List Char} {joint : Connective}
    (h : connective? text = some (joint, rest)) :
  rest.length < text.length
  := by
  unfold connective? at h
  split at h
  · next hand =>
    have := Text.length_of_keyword? hand
    simp_all
    omega
  · obtain ⟨tail, hor, heq⟩ := Option.map_eq_some_iff.1 h
    have := Text.length_of_keyword? hor
    simp_all
    omega

/-- What follows a separator is shorter than the text. -/
theorem length_lt_of_separator? {text : List Char} {found : Connective × List Char}
    (h : separator? text = some found) :
  found.2.length < text.length
  := by
  simp only [separator?, Option.bind_eq_some_iff, Option.map_eq_some_iff] at h
  obtain ⟨word, ⟨afterGap, hgap, hword⟩, rest, hrest, rfl⟩ := h
  have := Text.length_lt_of_gap? hgap
  have := length_lt_of_connective? hword
  have := Text.length_lt_of_gap? hrest
  simp only
  omega

/-- What follows the first separator is shorter than the text. -/
theorem length_lt_of_firstSeparator? {text : List Char}
    {found : List Char × Connective × List Char} (h : firstSeparator? text = some found) :
  found.2.2.length < text.length
  := by
  induction text generalizing found with
  | nil => simp [firstSeparator?] at h
  | cons c text ih =>
    cases hsep : separator? (c :: text) with
    | some sep =>
      have heq : ([], sep) = found := by simpa [firstSeparator?, hsep] using h
      subst heq
      exact length_lt_of_separator? hsep
    | none =>
      have hmap : (firstSeparator? text).map (fun found => (c :: found.1, found.2)) = some found
        := by simpa [firstSeparator?, hsep] using h
      obtain ⟨later, hlater, rfl⟩ := Option.map_eq_some_iff.1 hmap
      have shorter := ih hlater
      exact Nat.lt_succ_of_lt shorter

/-- The pieces of the text between its separators, as they stand. -/
def pieces (text : List Char) : Cut :=
  match h : firstSeparator? text with
  | none => ⟨text, []⟩
  | some (before, joint, rest) =>
    have : rest.length < text.length := length_lt_of_firstSeparator? h
    let later := pieces rest
    ⟨before, (joint, later.head) :: later.tail⟩
termination_by text.length

/-- The trimmed pieces of the text between its separators. -/
def cut (text : List Char) : Cut :=
  let p := pieces text
  ⟨Text.trimChars p.head, p.tail.map fun (joint, piece) => (joint, Text.trimChars piece)⟩

end Agenda.Query
