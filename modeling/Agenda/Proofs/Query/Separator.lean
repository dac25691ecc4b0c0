import Agenda.Proofs.Text.Front
import Agenda.Query.Segment

/-!
# Separators

A separator is a connective in any letter case between two gaps.  `separator?` finds those at
the front of a text, and `firstSeparator?` passes over a text in which none begins.
-/

namespace Agenda.Query

open Text

/-- The connective as it stands in the language. -/
def Connective.word : Connective → List Char
  | .and => ['A', 'N', 'D']
  | .or => ['O', 'R']

/-- A connective in any letter case with its gaps. -/
structure Separator where
  before : List Char
  joint : Connective
  word : List Char
  after : List Char
  before_isGap : IsGap before
  word_eq : word.map foldLetter = joint.word
  after_isGap : IsGap after

/-- The separator as a text. -/
def Separator.text (s : Separator) : List Char :=
  s.before ++ s.word ++ s.after

/-- No separator stands anywhere in the text. -/
def IsWhole (text : List Char) : Prop :=
  ∀ s : Separator, ¬ s.text <:+: text

/-! ### At the front of a text -/

theorem connective?_eq_some_iff {text rest : List Char} {joint : Connective} :
  connective? text = some (joint, rest) ↔
    ∃ word, word.map foldLetter = joint.word ∧ text = word ++ rest
  := by
  rw [connective?]
  split
  · next tail htail =>
    rw [Option.some.injEq, Prod.mk.injEq]
    obtain ⟨word, hword, rfl⟩ := keyword?_eq_some_iff.mp htail
    constructor
    · rintro ⟨rfl, rfl⟩
      exact ⟨word, hword, rfl⟩
    · rintro ⟨other, hother, htext⟩
      cases joint with
      | and =>
        have hlength : word.length = other.length := by
          have hsame : word.map foldLetter = other.map foldLetter := hword.trans hother.symm
          simpa using congrArg List.length hsame
        exact ⟨rfl, List.append_inj_right htext hlength⟩
      | or =>
        obtain ⟨c, _, rfl, hc, -⟩ := List.map_eq_cons_iff.mp hword
        obtain ⟨d, _, rfl, hd, -⟩ := List.map_eq_cons_iff.mp hother
        obtain ⟨rfl, -⟩ := List.cons.inj htext
        rw [hc] at hd
        contradiction
  · next hand =>
    rw [Option.map_eq_some_iff]
    constructor
    · rintro ⟨tail, htail, heq⟩
      obtain ⟨rfl, rfl⟩ := Prod.mk.inj heq
      apply keyword?_eq_some_iff.mp htail
    · rintro ⟨word, hword, htext⟩
      have hkeyword := keyword?_eq_some_iff.mpr ⟨word, hword, htext⟩
      cases joint with
      | and =>
        rw [Connective.word, hand] at hkeyword
        contradiction
      | or => exact ⟨rest, hkeyword, rfl⟩

/-- Words begin with a letter, so that the gap before one ends there. -/
theorem isFlush_word_append {word rest : List Char} {joint : Connective}
    (h : word.map foldLetter = joint.word) :
  IsFlush (word ++ rest)
  := by
  cases joint with
  | and => apply isFlush_append_of_map_foldLetter (List.cons_ne_nil _ _) (isFlush_cons.mpr rfl) h
  | or => apply isFlush_append_of_map_foldLetter (List.cons_ne_nil _ _) (isFlush_cons.mpr rfl) h

/-- A separator is found at the front of a text with all blanks after its connective. -/
theorem separator?_eq_some_iff {text rest : List Char} {joint : Connective} :
  separator? text = some (joint, rest) ↔
    ∃ s : Separator, s.joint = joint ∧ text = s.text ++ rest ∧ IsFlush rest
  := by
  simp only [separator?, Option.bind_eq_some_iff, Option.map_eq_some_iff]
  constructor
  · rintro ⟨⟨k, tail⟩, ⟨start, hbefore, hword⟩, rest', hafter, heq⟩
    obtain ⟨rfl, rfl⟩ := Prod.mk.inj heq
    obtain ⟨before, hgap, rfl, -⟩ := gap?_eq_some_iff.mp hbefore
    obtain ⟨word, hfold, rfl⟩ := connective?_eq_some_iff.mp hword
    obtain ⟨after, hgap', rfl, hrest⟩ := gap?_eq_some_iff.mp hafter
    use ⟨before, k, word, after, hgap, hfold, hgap'⟩
    refine ⟨rfl, ?_, hrest⟩
    simp only [Separator.text, List.append_assoc]
  · rintro ⟨s, rfl, rfl, hrest⟩
    have hafter : gap? (s.after ++ rest) = some rest :=
      gap?_eq_some_iff.mpr ⟨s.after, s.after_isGap, rfl, hrest⟩
    have hword : connective? (s.word ++ (s.after ++ rest)) = some (s.joint, s.after ++ rest) :=
      connective?_eq_some_iff.mpr ⟨s.word, s.word_eq, rfl⟩
    have hbefore : gap? (s.text ++ rest) = some (s.word ++ (s.after ++ rest)) := by
      apply gap?_eq_some_iff.mpr
      use s.before, s.before_isGap
      refine ⟨?_, isFlush_word_append s.word_eq⟩
      simp only [Separator.text, List.append_assoc]
    exact ⟨_, ⟨_, hbefore, hword⟩, _, hafter, rfl⟩

theorem separator?_eq_none_iff {text : List Char} :
  separator? text = none ↔ ∀ s : Separator, ¬ s.text <+: text
  := by
  constructor
  · rintro hnone s ⟨rest, rfl⟩
    -- the separator takes the blanks at the front of what follows it
    have hblanks : ∀ c ∈ rest.takeWhile isBlank, isBlank c = true := fun c hc =>
      List.mem_takeWhile_imp hc
    have hlonger : IsGap (s.after ++ rest.takeWhile isBlank) := by
      constructor
      · intro h
        apply s.after_isGap.ne_nil (List.append_eq_nil_iff.mp h).1
      · intro c hc
        rcases List.mem_append.mp hc with hc | hc
        · apply s.after_isGap.isBlank c hc
        · apply hblanks c hc
    have hfound : separator? (s.text ++ rest) = some (s.joint, dropBlanks rest) := by
      apply separator?_eq_some_iff.mpr
      use { s with after := s.after ++ rest.takeWhile isBlank, after_isGap := hlonger }
      refine ⟨rfl, ?_, isFlush_dropBlanks rest⟩
      simp only [Separator.text, dropBlanks, List.append_assoc, List.takeWhile_append_dropWhile]
    rw [hnone] at hfound
    contradiction
  · intro h
    cases hfound : separator? text with
    | none => rfl
    | some found =>
      obtain ⟨s, -, rfl, -⟩ := separator?_eq_some_iff.mp hfound
      apply absurd _ (h s)
      apply List.prefix_append

/-! ### Anywhere in a text -/

theorem firstSeparator?_cons_eq_none_iff {c : Char} {text : List Char} :
  firstSeparator? (c :: text) = none ↔
    separator? (c :: text) = none ∧ firstSeparator? text = none
  := by
  rw [firstSeparator?]
  cases separator? (c :: text) <;> simp

/-- No separator is found in a text just when there is none. -/
theorem firstSeparator?_eq_none_iff {text : List Char} :
  firstSeparator? text = none ↔ IsWhole text
  := by
  induction text with
  | nil =>
    constructor
    · rintro - s hs
      obtain ⟨hword, -⟩ := List.append_eq_nil_iff.mp (List.infix_nil.mp hs)
      apply s.before_isGap.ne_nil (List.append_eq_nil_iff.mp hword).1
    · intro _
      rfl
  | cons c text ih =>
    rw [firstSeparator?_cons_eq_none_iff, ih, separator?_eq_none_iff, IsWhole, IsWhole,
      ← forall_and]
    apply forall_congr'
    intro s
    rw [List.infix_cons_iff, not_or]

instance (text : List Char) : Decidable (IsWhole text) :=
  decidable_of_iff _ firstSeparator?_eq_none_iff

/-- No separator begins within the first text when the second text follows it. -/
def IsUnbroken (text later : List Char) : Prop :=
  ∀ t, t ≠ [] → t <:+ text → ∀ s : Separator, ¬ s.text <+: t ++ later

theorem isUnbroken_nil (later : List Char) :
  IsUnbroken [] later
  := by
  intro t hne ht
  apply absurd (List.suffix_nil.mp ht) hne

theorem isUnbroken_cons {c : Char} {text later : List Char} :
  IsUnbroken (c :: text) later ↔
    separator? (c :: text ++ later) = none ∧ IsUnbroken text later
  := by
  rw [separator?_eq_none_iff]
  constructor
  · intro h
    constructor
    · apply h (c :: text) (List.cons_ne_nil _ _) (List.suffix_refl _)
    · intro t hne ht
      apply h t hne (List.suffix_cons_iff.mpr (.inr ht))
  · rintro ⟨hfirst, hrest⟩ t hne ht
    obtain rfl | ht := List.suffix_cons_iff.mp ht
    · apply hfirst
    · apply hrest t hne ht

theorem isUnbroken_append {text more later : List Char} :
  IsUnbroken (text ++ more) later ↔ IsUnbroken text (more ++ later) ∧ IsUnbroken more later
  := by
  induction text with
  | nil =>
    constructor
    · intro h
      exact ⟨isUnbroken_nil _, h⟩
    · rintro ⟨-, h⟩
      apply h
  | cons c text ih =>
    rw [List.cons_append, isUnbroken_cons, isUnbroken_cons, ih, and_assoc, List.cons_append,
      List.cons_append, List.append_assoc]

/-- A separator begins with a blank. -/
theorem isUnbroken_of_forall_not_isBlank {text : List Char} (later : List Char)
    (h : ∀ c ∈ text, isBlank c = false) :
  IsUnbroken text later
  := by
  induction text with
  | nil => apply isUnbroken_nil
  | cons c text ih =>
    obtain ⟨hc, htext⟩ := List.forall_mem_cons.mp h
    apply isUnbroken_cons.mpr
    refine ⟨?_, ih htext⟩
    rw [separator?, List.cons_append, gap?, if_neg (by rw [hc]; apply Bool.false_ne_true)]
    rfl

/-- Texts in which no separator begins are passed over. -/
theorem firstSeparator?_append {text later : List Char} (h : IsUnbroken text later) :
  firstSeparator? (text ++ later)
    = (firstSeparator? later).map fun found => (text ++ found.1, found.2)
  := by
  induction text with
  | nil => simp
  | cons c text ih =>
    obtain ⟨hfirst, hrest⟩ := isUnbroken_cons.mp h
    rw [List.cons_append] at hfirst
    rw [List.cons_append, firstSeparator?, hfirst, ih hrest]
    simp [Function.comp_def]

/-- The first separator is where the text before it ends. -/
theorem firstSeparator?_text_append (s : Separator) {text later : List Char}
    (htext : IsUnbroken text (s.text ++ later)) (hlater : IsFlush later) :
  firstSeparator? (text ++ (s.text ++ later)) = some (text, s.joint, later)
  := by
  have hsep : separator? (s.text ++ later) = some (s.joint, later) :=
    separator?_eq_some_iff.mpr ⟨s, rfl, rfl, hlater⟩
  have hfirst : firstSeparator? (s.text ++ later) = some ([], s.joint, later) := by
    cases hcons : s.text ++ later with
    | nil =>
      rw [hcons] at hsep
      contradiction
    | cons c rest =>
      rw [hcons] at hsep
      rw [firstSeparator?, hsep]
      rfl
  rw [firstSeparator?_append htext, hfirst, Option.map_some, List.append_nil]

/-! ### Characters that stand in no separator -/

/-- The character is neither a blank nor a letter of a connective. -/
def IsBar (c : Char) : Prop :=
  isBlank c = false ∧ ∀ joint : Connective, foldLetter c ∉ joint.word

theorem IsBar.notMem {c : Char} (h : IsBar c) (s : Separator) :
  c ∉ s.text
  := by
  obtain ⟨hblank, hletter⟩ := h
  have hgap : ∀ {gap}, IsGap gap → c ∉ gap := by
    intro gap hgap hc
    rw [hgap.isBlank c hc] at hblank
    contradiction
  rw [Separator.text, List.mem_append, List.mem_append]
  rintro ((hc | hc) | hc)
  · apply hgap s.before_isGap hc
  · apply hletter s.joint
    rw [← s.word_eq]
    apply List.mem_map_of_mem hc
  · apply hgap s.after_isGap hc

/-- A separator that begins before a bar ends before it. -/
theorem IsBar.isPrefix_of_isPrefix_append {c : Char} (h : IsBar c) {s : Separator}
    {text later : List Char} (hs : s.text <+: text ++ c :: later) :
  s.text <+: text
  := by
  rcases List.prefix_or_prefix_of_prefix hs (List.prefix_append text (c :: later)) with hs' | hs'
  · apply hs'
  · obtain ⟨rest, hrest⟩ := hs'
    cases rest with
    | nil =>
      rw [List.append_nil] at hrest
      exact ⟨[], by rw [List.append_nil, hrest]⟩
    | cons d rest =>
      rw [← hrest, List.prefix_append_right_inj, List.cons_prefix_cons] at hs
      obtain ⟨rfl, -⟩ := hs
      apply absurd _ (h.notMem s)
      rw [← hrest]
      simp

theorem IsBar.isUnbroken {c : Char} (h : IsBar c) {text : List Char} (later : List Char)
    (htext : IsWhole text) :
  IsUnbroken text (c :: later)
  := by
  intro t _ ht s hs
  apply htext s
  apply List.IsInfix.trans (h.isPrefix_of_isPrefix_append hs).isInfix ht.isInfix

end Agenda.Query
