import Mathlib.Data.List.TakeWhile
import Agenda.Text.Lower

/-!
# Small letters of a part of a text

What a part of a text becomes when the whole text is put in small letters.  This differs from the
small form of the part alone only in the capital sigmas whose small forms depend on what is around
the part.  `KeepsSigmas` says that there are none, and `lowerBetween_eq_lowerChars_iff` that
exactly then both forms of the part are the same.
-/

namespace Agenda.Text

/-- The small form of a character between the reversed text `before` and the text `after`. -/
def lowerAt (before : List Char) (c : Char) (after : List Char) : List Char :=
  if c = 'Σ' then [lowerSigma before after] else lowerChar c

/-- What becomes of a part of a text, where `before` is what precedes it, reversed, and `after`
what follows it. -/
def lowerBetween : (before part after : List Char) → List Char
  | _, [], _ => []
  | before, c :: part, after =>
    lowerAt before c (part ++ after) ++ lowerBetween (c :: before) part after

theorem lowerFrom_eq (before rest : List Char) :
  lowerFrom before rest = lowerBetween before rest []
  := by
  induction rest generalizing before with
  | nil => rfl
  | cons c rest ih => rw [lowerFrom, lowerBetween, lowerAt, ih, List.append_nil]

/-- Two parts that follow each other are put in small letters one after the other. -/
theorem lowerBetween_append (before part more after : List Char) :
  lowerBetween before (part ++ more) after
    = lowerBetween before part (more ++ after) ++ lowerBetween (part.reverse ++ before) more after
  := by
  induction part generalizing before with
  | nil => rfl
  | cons c part ih =>
    rw [List.cons_append, lowerBetween, lowerBetween, ih, List.reverse_cons, List.append_assoc,
      List.append_assoc, List.append_assoc, List.singleton_append]

/-- The small form of a text has that of every part of it in its place. -/
theorem lowerChars_append (before part after : List Char) :
  lowerChars (before ++ (part ++ after))
    = lowerBetween [] before (part ++ after)
      ++ (lowerBetween before.reverse part after
        ++ lowerBetween (part.reverse ++ before.reverse) after [])
  := by
  rw [lowerChars, lowerFrom_eq, lowerBetween_append, lowerBetween_append]
  simp only [List.append_nil]

/-! ### Capital sigmas -/

theorem lowerAt_eq_iff {before before' after after' : List Char} {c : Char} :
  lowerAt before c after = lowerAt before' c after' ↔
    (c = 'Σ' → lowerSigma before after = lowerSigma before' after')
  := by
  rw [lowerAt, lowerAt]
  split
  · next hsigma => simp [hsigma]
  · next hother => simp [hother]

/-- How long the small form of a character is does not depend on what is around it. -/
theorem length_lowerAt (before before' after after' : List Char) (c : Char) :
  (lowerAt before c after).length = (lowerAt before' c after').length
  := by
  rw [lowerAt, lowerAt]
  split <;> rfl

/-- A part has the same small form in two texts when all its capital sigmas do. -/
theorem lowerBetween_eq_iff {before before' part after after' : List Char} :
  lowerBetween before part after = lowerBetween before' part after' ↔
    ∀ front back, part = front ++ 'Σ' :: back →
      lowerSigma (front.reverse ++ before) (back ++ after)
        = lowerSigma (front.reverse ++ before') (back ++ after')
  := by
  induction part generalizing before before' with
  | nil => simp [lowerBetween]
  | cons c part ih =>
    have hsplit : lowerBetween before (c :: part) after = lowerBetween before' (c :: part) after' ↔
        lowerAt before c (part ++ after) = lowerAt before' c (part ++ after')
          ∧ lowerBetween (c :: before) part after = lowerBetween (c :: before') part after' := by
      rw [lowerBetween, lowerBetween]
      constructor
      · intro h
        apply List.append_inj h (length_lowerAt _ _ _ _ c)
      · rintro ⟨hfirst, hrest⟩
        rw [hfirst, hrest]
    rw [hsplit, lowerAt_eq_iff, ih]
    constructor
    · rintro ⟨hfirst, hrest⟩ (_ | ⟨d, front⟩) back heq
      · obtain ⟨rfl, rfl⟩ := List.cons.inj heq
        apply hfirst rfl
      · obtain ⟨rfl, rfl⟩ := List.cons.inj heq
        simpa using hrest front back rfl
    · intro h
      constructor
      · rintro rfl
        apply h [] part rfl
      · rintro front back rfl
        simpa using h (c :: front) back rfl

/-- Every capital sigma of the part has the same small form within the text, where the part is
between two others, as it has in the part alone. -/
def KeepsSigmas (before part after : List Char) : Prop :=
  ∀ front back, part = front ++ 'Σ' :: back →
    lowerSigma (front.reverse ++ before.reverse) (back ++ after) = lowerSigma front.reverse back

/-- A part of a text becomes its own small form when its capital sigmas keep theirs, and only
then. -/
theorem lowerBetween_eq_lowerChars_iff {before part after : List Char} :
  lowerBetween before.reverse part after = lowerChars part ↔ KeepsSigmas before part after
  := by
  rw [lowerChars, lowerFrom_eq, lowerBetween_eq_iff, KeepsSigmas]
  simp only [List.append_nil]

/-- On both sides of every capital sigma of the part there are characters of the part that are not
case-ignorable. -/
def EnclosesSigmas (part : List Char) : Prop :=
  ∀ front back, part = front ++ 'Σ' :: back →
    (∃ c ∈ front, isCaseIgnorable c = false) ∧ ∃ c ∈ back, isCaseIgnorable c = false

/-- A part without capital sigmas has none to enclose. -/
theorem enclosesSigmas_of_notMem {part : List Char} (h : 'Σ' ∉ part) :
  EnclosesSigmas part
  := by
  rintro front back rfl
  simp at h

/-- Only the first character that is not case-ignorable matters. -/
theorem reachesCased_append {s : List Char} (h : ∃ c ∈ s, isCaseIgnorable c = false)
    (more : List Char) :
  reachesCased (s ++ more) = reachesCased s
  := by
  have hne : s.dropWhile isCaseIgnorable ≠ [] := by
    obtain ⟨c, hc, hfalse⟩ := h
    intro hnil
    rw [List.dropWhile_eq_nil_iff.mp hnil c hc] at hfalse
    contradiction
  obtain ⟨d, rest, hrest⟩ := List.exists_cons_of_ne_nil hne
  rw [reachesCased, reachesCased, List.dropWhile_append, hrest]
  rfl

/-- The small form of an enclosed sigma is decided within the part. -/
theorem EnclosesSigmas.keepsSigmas {part : List Char} (h : EnclosesSigmas part)
    (before after : List Char) :
  KeepsSigmas before part after
  := by
  intro front back hpart
  obtain ⟨⟨c, hc, hfalse⟩, hback⟩ := h front back hpart
  have hfront : ∃ c ∈ front.reverse, isCaseIgnorable c = false :=
    ⟨c, List.mem_reverse.mpr hc, hfalse⟩
  rw [lowerSigma, lowerSigma, reachesCased_append hfront, reachesCased_append hback]

/-- A part of a text is found in small letters when its capital sigmas keep their small forms. -/
theorem KeepsSigmas.lowerChars_isInfix {before part after : List Char}
    (h : KeepsSigmas before part after) :
  lowerChars part <:+: lowerChars (before ++ (part ++ after))
  := by
  rw [lowerChars_append, lowerBetween_eq_lowerChars_iff.mpr h, ← List.append_assoc]
  apply List.infix_append

end Agenda.Text
