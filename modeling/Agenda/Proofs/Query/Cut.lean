import Agenda.Proofs.Query.Separator

/-!
# Cutting a text

What it is to cut a text at its separators.  `IsCut` describes the pieces from left to right:
a piece ends where the first separator begins, and a separator takes all blanks that follow
its connective.  `pieces_eq_iff` says that every text has exactly the pieces that `pieces`
finds.
-/

namespace Agenda.Query

open Text

/-- The pieces of a text between its separators, as they stand. -/
inductive IsCut : (text : List Char) → (pieces : Cut) → Prop
  /-- A text without a separator is its only piece. -/
  | whole {text : List Char} : IsWhole text → IsCut text ⟨text, []⟩
  /-- The first piece ends at a separator before which none begins, and what follows the
  separator is cut in its turn. -/
  | separator {before later : List Char} {pieces : Cut} (s : Separator) :
    IsUnbroken before (s.text ++ later) → IsFlush later → IsCut later pieces →
    IsCut (before ++ (s.text ++ later)) ⟨before, (s.joint, pieces.head) :: pieces.tail⟩

/-- The first separator of a text is the one before which none begins, with all blanks after
its connective. -/
theorem firstSeparator?_eq_some_iff {text before later : List Char} {joint : Connective} :
  firstSeparator? text = some (before, joint, later) ↔
    ∃ s : Separator, s.joint = joint ∧ text = before ++ (s.text ++ later)
      ∧ IsUnbroken before (s.text ++ later) ∧ IsFlush later
  := by
  constructor
  · intro h
    induction text generalizing before with
    | nil => contradiction
    | cons c text ih =>
      rw [firstSeparator?] at h
      cases hsep : separator? (c :: text) with
      | some found =>
        obtain ⟨rfl, rfl⟩ : [] = before ∧ found = (joint, later) := by simpa [hsep] using h
        obtain ⟨s, hjoint, htext, hlater⟩ := separator?_eq_some_iff.mp hsep
        use s, hjoint
        exact ⟨htext, isUnbroken_nil _, hlater⟩
      | none =>
        obtain ⟨⟨front, found⟩, hfound, heq⟩ :
            ∃ found, firstSeparator? text = some found
              ∧ (c :: found.1, found.2) = (before, joint, later) := by
          simpa [hsep] using h
        obtain ⟨rfl, rfl⟩ := Prod.mk.inj heq
        obtain ⟨s, hjoint, rfl, hfront, hlater⟩ := ih hfound
        use s, hjoint
        exact ⟨rfl, isUnbroken_cons.mpr ⟨hsep, hfront⟩, hlater⟩
  · rintro ⟨s, rfl, rfl, hbefore, hlater⟩
    apply firstSeparator?_text_append s hbefore hlater

/-- The pieces of a text are what precedes the first separator and the pieces after it. -/
theorem pieces_of_firstSeparator? {text before later : List Char} {joint : Connective}
    (h : firstSeparator? text = some (before, joint, later)) :
  pieces text = ⟨before, (joint, (pieces later).head) :: (pieces later).tail⟩
  := by
  rw [pieces]
  split
  · next hnone =>
    rw [h] at hnone
    contradiction
  · next hsome =>
    rw [h] at hsome
    obtain ⟨rfl, rfl, rfl⟩ := by simpa using hsome
    rfl

theorem pieces_of_isWhole {text : List Char} (h : IsWhole text) :
  pieces text = ⟨text, []⟩
  := by
  have hnone := firstSeparator?_eq_none_iff.mpr h
  rw [pieces]
  split
  · rfl
  · next hsome =>
    rw [hnone] at hsome
    contradiction

theorem isCut_pieces (text : List Char) :
  IsCut text (pieces text)
  := by
  -- the text after the first separator is shorter
  induction hlength : text.length using Nat.strong_induction_on generalizing text with
  | _ n ih =>
    cases hfirst : firstSeparator? text with
    | none =>
      have hwhole := firstSeparator?_eq_none_iff.mp hfirst
      rw [pieces_of_isWhole hwhole]
      apply IsCut.whole hwhole
    | some found =>
      obtain ⟨before, joint, later⟩ := found
      have hshorter : later.length < text.length := length_lt_of_firstSeparator? hfirst
      have hlater := ih later.length (hlength ▸ hshorter) later rfl
      rw [pieces_of_firstSeparator? hfirst]
      obtain ⟨s, rfl, rfl, hbefore, hflush⟩ := firstSeparator?_eq_some_iff.mp hfirst
      apply IsCut.separator s hbefore hflush hlater

/-- A text is cut into its pieces in one way only. -/
theorem pieces_eq_iff {text : List Char} {c : Cut} :
  pieces text = c ↔ IsCut text c
  := by
  constructor
  · rintro rfl
    apply isCut_pieces
  · intro h
    induction h with
    | whole hwhole => apply pieces_of_isWhole hwhole
    | separator s hbefore hflush _ ih =>
      rw [pieces_of_firstSeparator? (firstSeparator?_text_append s hbefore hflush), ih]

end Agenda.Query
