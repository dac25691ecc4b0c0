import Agenda.Proofs.Query.Grammar

/-!
# Spelling out a condition

A clause is a text on one line that is read as a predicate and that no separator breaks,
whatever follows it.  Clauses joined by connectives between single blanks spell a condition:
they are cut where they were joined, and a statement that has them as its condition is read as
that condition.

A field, an operator between single blanks and an operand are a clause when the operand is such
that no separator crosses its borders.
-/

namespace Agenda.Query

open Text

/-- The text is read as the predicate wherever it stands in a condition. -/
structure IsClause (text : List Char) (p : Predicate) : Prop where
  ne_nil : text ≠ []
  isFlush : IsFlush text
  isFlush_reverse : IsFlush text.reverse
  notMem : '\n' ∉ text
  isUnbroken : ∀ later, IsUnbroken text later
  isPredicate : IsPredicate text p

/-- The connective between single blanks. -/
def Connective.separator (joint : Connective) : Separator where
  before := [' ']
  joint := joint
  word := joint.word
  after := [' ']
  before_isGap := isGap_singleton rfl
  word_eq := by cases joint <;> rfl
  after_isGap := isGap_singleton rfl

theorem Connective.toList_print (joint : Connective) :
  joint.print.toList = joint.separator.text
  := by
  cases joint <;> rfl

/-- The text consists of clauses for the predicates of the condition, with its connectives
between them. -/
inductive Spells : (text : List Char) → (c : Condition) → Prop
  | one {text : List Char} {p : Predicate} : IsClause text p → Spells text ⟨p, []⟩
  | joined {text later : List Char} {p : Predicate} {c : Condition} (joint : Connective) :
    IsClause text p → Spells later c →
    Spells (text ++ (joint.separator.text ++ later)) ⟨p, (joint, c.first) :: c.rest⟩

/-! ### Clauses -/

namespace IsClause

variable {text : List Char} {p : Predicate}

theorem trimChars_eq (h : IsClause text p) :
  trimChars text = text
  := trimChars_of_isFlush h.isFlush h.isFlush_reverse

theorem isWhole (h : IsClause text p) :
  IsWhole text
  := by
  apply firstSeparator?_eq_none_iff.mp
  have hpassed := firstSeparator?_append (h.isUnbroken [])
  rw [List.append_nil] at hpassed
  apply hpassed

end IsClause

/-! ### Operands -/

/-- The letters of fields are no blanks. -/
theorem isBlank_of_isFieldLetter {c : Char} (h : isFieldLetter c = true) :
  isBlank c = false
  := by
  simp only [isFieldLetter, Bool.or_eq_true, beq_iff_eq] at h
  rcases h with ((rfl | halpha) | rfl) | rfl
  · decide
  · have hcode : 65 ≤ c.toNat ∧ c.toNat ≤ 90 ∨ 97 ≤ c.toNat ∧ c.toNat ≤ 122 := by
      obtain hupper | hlower := (Bool.or_eq_true _ _).mp halpha
      · left
        apply of_decide_eq_true hupper
      · right
        obtain ⟨hle, hge⟩ := (Bool.and_eq_true _ _).mp hlower
        exact ⟨of_decide_eq_true hle, of_decide_eq_true hge⟩
    cases hblank : isBlank c with
    | false => rfl
    | true =>
      simp only [isBlank, Bool.or_eq_true, Bool.and_eq_true, decide_eq_true_eq, beq_iff_eq]
        at hblank
      omega
  · decide
  · decide

theorem Operator.toList_print (operator : Operator) :
  operator.print.toList = [' '] ++ (operator.word ++ [' '])
  := by
  cases operator <;> rfl

theorem Operator.isWhole_print (operator : Operator) :
  IsWhole operator.print.toList
  := by
  apply firstSeparator?_eq_none_iff.mp
  cases operator <;> rfl

/-- The text can stand after an operator: it is on one line and does not end with a blank, no
separator begins in it, and its first character stands in no separator. -/
structure IsOperand (operand : List Char) : Prop where
  head : ∃ c rest, operand = c :: rest ∧ IsBar c
  isFlush_reverse : IsFlush operand.reverse
  notMem : '\n' ∉ operand
  isUnbroken : ∀ later, IsUnbroken operand later

namespace IsOperand

variable {operand : List Char} {field : String} (h : IsOperand operand)

include h

theorem ne_nil :
  operand ≠ []
  := by
  obtain ⟨c, rest, rfl, -⟩ := h.head
  apply List.cons_ne_nil

theorem isFlush :
  IsFlush operand
  := by
  obtain ⟨c, rest, rfl, hc⟩ := h.head
  apply isFlush_cons.mpr hc.1

/-- The operand after an operator between single blanks. -/
def comparison (operator : Operator) : Comparison where
  before := [' ']
  operator := operator
  word := operator.word
  after := [' ']
  operand := operand
  before_isBlank := (isGap_singleton rfl).isBlank
  word_eq := by cases operator <;> rfl
  after_isBlank := (isGap_singleton rfl).isBlank
  operand_ne_nil := h.ne_nil
  operand_isFlush := h.isFlush
  operand_line := h.notMem

variable (hne : field ≠ "") (hletters : ∀ c ∈ field.toList, isFieldLetter c = true)
  (operator : Operator)

include hne hletters

theorem isPredicate :
  IsPredicate (field.toList ++ (operator.print.toList ++ operand))
    ⟨field, operator, String.ofList (unquote operand)⟩
  := by
  have htext : operator.print.toList ++ operand = (h.comparison operator).text := by
    simp only [operator.toList_print, Comparison.text, comparison, List.append_assoc]
  refine ⟨⟨field.toList, h.comparison operator, String.toList_eq_nil_iff.not.mpr hne, hletters⟩,
    ?_, ?_, ?_⟩
  · rw [Reading.text, htext]
  · rw [Reading.predicate, String.ofList_toList]
    rfl
  · -- no field reaches beyond the blank before the operator
    intro other hother
    have hstop : (operator.print.toList ++ operand).takeWhile isFieldLetter = [] := by
      rw [operator.toList_print]
      rfl
    have hlength := other.length_field_le
    rw [hother, List.takeWhile_append_of_pos hletters, hstop, List.append_nil] at hlength
    apply hlength

/-- A field that is compared with an operand is a clause. -/
theorem isClause :
  IsClause (field.toList ++ (operator.print.toList ++ operand))
    ⟨field, operator, String.ofList (unquote operand)⟩
  := by
  have hfield : field.toList ≠ [] := String.toList_eq_nil_iff.not.mpr hne
  have hblank : ∀ c ∈ field.toList, isBlank c = false := by
    intro c hc
    apply isBlank_of_isFieldLetter (hletters c hc)
  constructor
  · apply List.append_ne_nil_of_left_ne_nil hfield
  · apply isFlush_append hfield
    intro c hc
    apply hblank c (List.mem_of_mem_head? hc)
  · rw [← List.append_assoc, List.reverse_append]
    apply isFlush_append (List.reverse_eq_nil_iff.not.mpr h.ne_nil) h.isFlush_reverse
  · have hline : '\n' ∉ field.toList := by
      intro hmem
      apply absurd (hletters _ hmem)
      decide
    have hoperator : '\n' ∉ operator.print.toList := by
      cases operator <;> decide
    rw [List.mem_append, List.mem_append, not_or, not_or]
    exact ⟨hline, hoperator, h.notMem⟩
  · intro later
    rw [isUnbroken_append, isUnbroken_append]
    refine ⟨isUnbroken_of_forall_not_isBlank _ hblank, ?_, h.isUnbroken later⟩
    obtain ⟨c, rest, rfl, hc⟩ := h.head
    apply hc.isUnbroken _ operator.isWhole_print
  · apply h.isPredicate hne hletters

end IsOperand

/-! ### Conditions -/

theorem isPhrase_opening :
  IsPhrase opening "SELECT * FROM tasks".toList
  := by
  have htable : afterTable? "SELECT * FROM tasks".toList = some [] := rfl
  obtain ⟨front, hfront, htext⟩ := afterTable?_eq_some_iff.mp htable
  rw [htext, List.append_nil]
  exact hfront

namespace Spells

variable {text : List Char} {c : Condition}

theorem ne_nil (h : Spells text c) :
  text ≠ []
  := by
  cases h with
  | one hclause => apply hclause.ne_nil
  | joined joint hclause _ => apply List.append_ne_nil_of_left_ne_nil hclause.ne_nil

theorem isFlush (h : Spells text c) :
  IsFlush text
  := by
  cases h with
  | one hclause => apply hclause.isFlush
  | joined joint hclause _ => apply isFlush_append hclause.ne_nil hclause.isFlush

/-- The text ends with the last clause, whatever precedes it. -/
theorem isFlush_reverse (h : Spells text c) (earlier : List Char) :
  IsFlush (earlier ++ text).reverse
  := by
  induction h generalizing earlier with
  | one hclause =>
    rw [List.reverse_append]
    apply isFlush_append (List.reverse_eq_nil_iff.not.mpr hclause.ne_nil) hclause.isFlush_reverse
  | joined joint _ _ ih =>
    rw [← List.append_assoc, ← List.append_assoc]
    apply ih

theorem notMem (h : Spells text c) :
  '\n' ∉ text
  := by
  induction h with
  | one hclause => apply hclause.notMem
  | joined joint hclause _ ih =>
    have hseparator : '\n' ∉ joint.separator.text := by
      cases joint <;> decide
    rw [List.mem_append, List.mem_append]
    rintro (hline | hline | hline)
    · apply hclause.notMem hline
    · apply hseparator hline
    · apply ih hline

/-- The text is cut between its clauses, and nowhere else. -/
theorem exists_isCut (h : Spells text c) :
  ∃ pieces, IsCut text pieces ∧ pieces.Denotes c
  := by
  induction h with
  | @one text p hclause =>
    refine ⟨⟨text, []⟩, IsCut.whole hclause.isWhole, ?_, List.Forall₂.nil⟩
    rw [hclause.trimChars_eq]
    apply hclause.isPredicate
  | @joined text later p c joint hclause hlater ih =>
    obtain ⟨pieces, hcut, hfirst, hrest⟩ := ih
    refine ⟨_, IsCut.separator joint.separator (hclause.isUnbroken _) hlater.isFlush hcut, ?_,
      List.Forall₂.cons ⟨rfl, hfirst⟩ hrest⟩
    rw [hclause.trimChars_eq]
    apply hclause.isPredicate

/-- A condition that is spelled out is read where a statement has it. -/
theorem parse_eq (h : Spells text c) {query : String}
    (hquery : query.toList = "SELECT * FROM tasks WHERE ".toList ++ text) :
  parse query = .ok ⟨some c⟩
  := by
  have htrim : trimChars query.toList = query.toList := by
    apply trimChars_of_isFlush
    · rw [hquery]
      apply isFlush_cons.mpr rfl
    · rw [hquery]
      apply h.isFlush_reverse
  have hblank : IsGap [' '] := isGap_singleton rfl
  have hclause : Introduces (['W', 'H', 'E', 'R', 'E'] ++ ([' '] ++ text)) text :=
    ⟨_, _, rfl, hblank, rfl, h.ne_nil, h.isFlush, h.notMem⟩
  have hopening : "SELECT * FROM tasks WHERE ".toList
      = "SELECT * FROM tasks".toList ++ ([' '] ++ (['W', 'H', 'E', 'R', 'E'] ++ [' '])) := by
    decide
  have hcondition : HasCondition (trimChars query.toList) text := by
    rw [htrim, hquery, hopening]
    refine ⟨_, [' '], _, isPhrase_opening, hblank.isBlank, hclause, ?_⟩
    simp only [List.append_assoc]
  obtain ⟨pieces, hcut, hdenotes⟩ := h.exists_isCut
  apply (IsReadAs.condition hcondition hcut hdenotes).parse_eq

end Spells

end Agenda.Query
