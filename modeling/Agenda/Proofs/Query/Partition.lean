import Agenda.Proofs.Query.Canonical

/-!
# Texts taken apart

A text can be taken apart in just one way into pieces without a separator and the leftmost
separators between them, and the segments of a cut are the trimmed pieces.  That a separator is the
leftmost can be told from it and the piece before it alone: a separator that begins in the piece and
does not end before the other one has no room for its connective and a blank after it.  What stands
between the blanks of a separator is always a connective, so that no separator is left in a segment
and every connective has its segment.
-/

namespace Agenda.Query

open Text

/-! ### The parts of a separator -/

namespace Separator

variable {c : Char}

theorem foldLetter_mem {s : Separator} (h : c ∈ s.word) :
  foldLetter c ∈ s.joint.word
  := by
  rw [← s.word_eq]
  apply List.mem_map_of_mem h

/-- The word of a separator has no blanks. -/
theorem notMem_word (h : isBlank c = true) (s : Separator) :
  c ∉ s.word
  := by
  have hletters : ∀ joint : Connective, joint.word.any isBlank = false := by
    rintro (_ | _) <;> rfl
  intro hc
  have hfold := foldLetter_mem hc
  rw [foldLetter_of_isBlank h] at hfold
  apply List.any_eq_false.mp (hletters s.joint) c hfold h

theorem word_ne_nil (s : Separator) :
  s.word ≠ []
  := by
  intro h
  have hword := s.word_eq
  rw [h] at hword
  cases hjoint : s.joint <;> simp [hjoint, Connective.word] at hword

theorem isFlush_word (s : Separator) :
  IsFlush s.word
  := by
  have h : IsFlush (s.word ++ []) := isFlush_word_append s.word_eq
  rwa [List.append_nil] at h

theorem isFlush_reverse_word (s : Separator) :
  IsFlush s.word.reverse
  := by
  intro c hc
  cases hblank : isBlank c with
  | false => rfl
  | true =>
    apply absurd _ (notMem_word hblank s)
    apply List.mem_reverse.mp (List.mem_of_mem_head? hc)

theorem trimChars_text (s : Separator) :
  trimChars s.text = s.word
  := by
  rw [text, List.append_assoc]
  apply trimChars_append s.word_ne_nil s.isFlush_word s.isFlush_reverse_word
  · apply s.before_isGap.isBlank
  · apply s.after_isGap.isBlank

theorem dropBlanks_text (s : Separator) :
  dropBlanks s.text = s.word ++ s.after
  := by
  rw [text, List.append_assoc]
  apply dropBlanks_append s.before_isGap.isBlank (isFlush_word_append s.word_eq)

/-- A separator is known from its text. -/
theorem eq_of_text_eq {s r : Separator} (h : s.text = r.text) :
  s = r
  := by
  have hword : s.word = r.word := by
    rw [← trimChars_text, h, trimChars_text]
  have hafter : s.after = r.after := by
    have hdrop : s.word ++ s.after = s.word ++ r.after := by
      rw [← dropBlanks_text, h, dropBlanks_text, hword]
    apply List.append_cancel_left hdrop
  have hbefore : s.before = r.before := by
    rw [text, text, hword, hafter] at h
    apply List.append_cancel_right (List.append_cancel_right h)
  have hjoint : s.joint = r.joint := by
    have heq : s.joint.word = r.joint.word := by
      rw [← s.word_eq, ← r.word_eq, hword]
    revert heq
    cases s.joint <;> cases r.joint <;> decide
  cases s
  cases r
  simp_all

/-- No separator stands within blanks and a word. -/
theorem not_isInfix_before_word (s r : Separator) :
  ¬ s.text <:+: r.before ++ r.word
  := by
  have hafter : ∀ front later, r.word ≠ front ++ (s.after ++ later) := by
    intro front later h
    obtain ⟨c, after, hcons⟩ := List.exists_cons_of_ne_nil s.after_isGap.ne_nil
    apply notMem_word (s.after_isGap.isBlank c (by simp [hcons])) r
    simp [h, hcons]
  rintro ⟨front, later, h⟩
  have h : r.before ++ r.word = front ++ s.before ++ (s.word ++ (s.after ++ later)) := by
    rw [← h]
    simp only [text, List.append_assoc]
  rcases List.append_eq_append_iff.mp h with ⟨between, -, hword⟩ | ⟨between, hbefore, hword⟩
  · apply hafter (between ++ s.word) later
    rw [hword, List.append_assoc]
  · cases between with
    | nil => apply hafter s.word later hword.symm
    | cons c between =>
      obtain ⟨d, word, hcons⟩ := List.exists_cons_of_ne_nil s.word_ne_nil
      rw [hcons, List.cons_append, List.cons_append] at hword
      obtain ⟨rfl, -⟩ := List.cons.inj hword
      apply notMem_word (r.before_isGap.isBlank d (by simp [hbefore])) s
      simp [hcons]

end Separator

/-- Whether a separator begins within a text does not depend on what follows the separator that
comes after the text. -/
theorem IsUnbroken.append {piece : List Char} {s : Separator} (h : IsUnbroken piece s.text)
    (later : List Char) :
  IsUnbroken piece (s.text ++ later)
  := by
  intro t hne ht r hr
  -- one blank after the connective is enough
  obtain ⟨c, after, hcons⟩ := List.exists_cons_of_ne_nil r.after_isGap.ne_nil
  have hblank : isBlank c = true := r.after_isGap.isBlank c (by simp [hcons])
  let short : Separator := { r with after := [c], after_isGap := isGap_singleton hblank }
  have hshort : short.text <+: t ++ s.text ++ later := by
    rw [List.append_assoc]
    apply List.IsPrefix.trans _ hr
    use after
    simp [short, Separator.text, hcons]
  rcases List.prefix_or_prefix_of_prefix hshort (List.prefix_append _ _) with hwithin | hbeyond
  · apply h t hne ht short hwithin
  · rcases List.prefix_concat_iff.mp hbeyond with heq | hprefix
    · apply h t hne ht short
      rw [heq]
      apply List.prefix_refl
    · apply s.not_isInfix_before_word r
      apply List.IsInfix.trans (List.suffix_append t s.text).isInfix hprefix.isInfix

/-! ### Connectives of words -/

/-- The connective that a word is in any letter case of ASCII. -/
def Connective.ofWord? (word : List Char) : Option Connective :=
  if word.map Char.toUpper = Connective.and.word then some .and
  else if word.map Char.toUpper = Connective.or.word then some .or
  else none

/-- The letters of the connectives have no other forms than those of ASCII. -/
theorem toUpper_of_foldLetter_mem {c : Char} {joint : Connective}
    (h : foldLetter c ∈ joint.word) :
  c.toUpper = foldLetter c
  := by
  rw [foldLetter] at h ⊢
  split_ifs at h ⊢
  · apply absurd h
    cases joint <;> decide
  · apply absurd h
    cases joint <;> decide
  · rfl

/-- The trimmed text of every separator is a connective. -/
theorem Separator.ofWord?_trimChars_text (s : Separator) :
  Connective.ofWord? (trimChars s.text) = some s.joint
  := by
  have hupper : s.word.map Char.toUpper = s.joint.word := by
    rw [← s.word_eq]
    apply List.map_congr_left
    intro c hc
    apply toUpper_of_foldLetter_mem (Separator.foldLetter_mem hc)
  rw [s.trimChars_text, Connective.ofWord?, hupper]
  cases s.joint <;> rfl

/-! ### Partitions -/

/-- A text taken apart: the piece before the first separator, and each separator with the piece
after it. -/
structure Partition where
  first : List Char
  rest : List (Separator × List Char)

namespace Partition

/-- The separators with the pieces after them as a text. -/
def laterText : List (Separator × List Char) → List Char
  | [] => []
  | (s, piece) :: rest => s.text ++ (piece ++ laterText rest)

/-- The text that is taken apart. -/
def text (p : Partition) : List Char :=
  p.first ++ laterText p.rest

/-- The text that begins with the piece is taken apart at its leftmost separators. -/
inductive Leads : (piece : List Char) → (rest : List (Separator × List Char)) → Prop
  /-- The last piece has no separator. -/
  | last {piece : List Char} : IsWhole piece → Leads piece []
  /-- Another piece has none either, and none begins in it when the separator after it is added.
  That separator takes all blanks after its connective. -/
  | next {piece later : List Char} {rest : List (Separator × List Char)} (s : Separator) :
    IsWhole piece → IsUnbroken piece s.text → IsFlush (later ++ laterText rest) →
    Leads later rest → Leads piece ((s, later) :: rest)

/-- The separators are the leftmost ones of the text, and no more are left. -/
def IsLeftmost (p : Partition) : Prop :=
  Leads p.first p.rest

/-- The pieces with the connectives of the separators between them. -/
def pieces (p : Partition) : Cut :=
  ⟨p.first, p.rest.map fun (s, piece) => (s.joint, piece)⟩

/-- Every cut takes the text apart at its leftmost separators. -/
theorem exists_of_isCut {text : List Char} {c : Cut} (h : IsCut text c) :
  ∃ p : Partition, p.IsLeftmost ∧ p.text = text ∧ p.pieces = c
  := by
  induction h with
  | @whole text hwhole =>
    use ⟨text, []⟩
    exact ⟨Leads.last hwhole, List.append_nil _, rfl⟩
  | @separator before later c s hbefore hflush _ ih =>
    obtain ⟨p, hp, htext, hpieces⟩ := ih
    use ⟨before, (s, p.first) :: p.rest⟩
    subst htext hpieces
    refine ⟨Leads.next s hbefore.isWhole ?_ hflush hp, rfl, rfl⟩
    intro t hne ht r hr
    apply hbefore t hne ht r
    apply hr.trans
    rw [← List.append_assoc]
    apply List.prefix_append

theorem Leads.firstSeparator?_eq {piece later : List Char} {s : Separator}
    {rest : List (Separator × List Char)} (h : Leads piece ((s, later) :: rest)) :
  firstSeparator? (piece ++ laterText ((s, later) :: rest))
    = some (piece, s.joint, later ++ laterText rest)
  := by
  cases h with
  | next _ _ hunbroken hflush _ => apply firstSeparator?_text_append s (hunbroken.append _) hflush

/-- There is one way to take a text apart at its leftmost separators. -/
theorem Leads.unique {piece piece' : List Char} {rest rest' : List (Separator × List Char)}
    (h : Leads piece rest) (h' : Leads piece' rest')
    (htext : piece ++ laterText rest = piece' ++ laterText rest') :
  piece = piece' ∧ rest = rest'
  := by
  induction h generalizing piece' rest' with
  | last hwhole =>
    cases rest' with
    | nil => simpa [laterText] using htext
    | cons part rest' =>
      have hfirst := h'.firstSeparator?_eq
      rw [← htext, laterText, List.append_nil, firstSeparator?_eq_none_iff.mpr hwhole] at hfirst
      contradiction
  | @next piece later rest s hwhole hunbroken hflush hlater ih =>
    have hfirst := (Leads.next s hwhole hunbroken hflush hlater).firstSeparator?_eq
    cases h' with
    | last hwhole' =>
      rw [htext, laterText, List.append_nil, firstSeparator?_eq_none_iff.mpr hwhole'] at hfirst
      contradiction
    | @next _ later' rest' s' hwhole' hunbroken' hflush' hlater' =>
      have hfirst' := (Leads.next s' hwhole' hunbroken' hflush' hlater').firstSeparator?_eq
      rw [htext, hfirst'] at hfirst
      obtain ⟨rfl, -, hrest⟩ : piece' = piece ∧ s'.joint = s.joint
          ∧ later' ++ laterText rest' = later ++ laterText rest := by
        simpa using hfirst
      obtain ⟨rfl, rfl⟩ := ih hlater' hrest.symm
      have hs : s.text = s'.text :=
        List.append_cancel_right (List.append_cancel_left htext)
      rw [Separator.eq_of_text_eq hs]
      exact ⟨rfl, rfl⟩

/-! ### Gathering the segments -/

/-- The segments and the connectives that are met from left to right.  A separator whose word is no
connective would be passed over and remain a part of its segment. -/
def gather : (segment : List Char) → List (Separator × List Char) →
    List (List Char) × List Connective
  | segment, [] => ([trimChars segment], [])
  | segment, (s, piece) :: rest =>
    match Connective.ofWord? (trimChars s.text) with
    | none => gather (segment ++ (s.text ++ piece)) rest
    | some joint => (trimChars segment :: (gather piece rest).1, joint :: (gather piece rest).2)

/-- No separator is passed over. -/
theorem gather_eq (segment : List Char) (rest : List (Separator × List Char)) :
  gather segment rest
    = (trimChars segment :: rest.map fun part => trimChars part.2, rest.map (·.1.joint))
  := by
  induction rest generalizing segment with
  | nil => rfl
  | cons part rest ih =>
    obtain ⟨s, piece⟩ := part
    rw [gather, s.ofWord?_trimChars_text]
    simp only [ih, List.map_cons]

end Partition

/-- A text has one partition at its leftmost separators.  Its trimmed pieces are the segments of the
cut, each after the connective of its separator, and this is the connective that is recognised in
the text of the separator; none is passed over when segments and connectives are gathered. -/
theorem cut_isLeftmost (text : List Char) :
  ∃ p : Partition, (∀ q : Partition, q.IsLeftmost ∧ q.text = text ↔ q = p)
    ∧ cut text = ⟨trimChars p.first, p.rest.map fun (s, piece) => (s.joint, trimChars piece)⟩
    ∧ (∀ part ∈ p.rest, Connective.ofWord? (trimChars part.1.text) = some part.1.joint)
    ∧ Partition.gather p.first p.rest
      = ((cut text).head :: (cut text).tail.map (·.2), (cut text).tail.map (·.1))
  := by
  obtain ⟨p, hp, htext, hpieces⟩ := Partition.exists_of_isCut (isCut_pieces text)
  have hcut : cut text
      = ⟨trimChars p.first, p.rest.map fun (s, piece) => (s.joint, trimChars piece)⟩ := by
    rw [cut, ← hpieces, Partition.pieces]
    simp only [List.map_map]
    rfl
  refine ⟨p, ?_, hcut, fun part _ => part.1.ofWord?_trimChars_text, ?_⟩
  · intro q
    constructor
    · rintro ⟨hq, hqtext⟩
      obtain ⟨hfirst, hrest⟩ := Partition.Leads.unique hq hp (hqtext.trans htext.symm)
      cases p
      cases q
      simp_all
    · rintro rfl
      exact ⟨hp, htext⟩
  · rw [hcut, Partition.gather_eq]
    simp only [List.map_map]
    rfl

/-- The blanks between two connectives belong to the first, and the second is left as text. -/
example : cut "x and OR\ty oR z".toList = ⟨['x'], [(.and, "OR\ty".toList), (.or, ['z'])]⟩ := by
  decide +kernel

end Agenda.Query
