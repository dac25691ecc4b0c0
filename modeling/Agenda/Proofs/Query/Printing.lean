import Agenda.Proofs.Query.Clause

/-!
# Printing and reading queries

A statement in its canonical form is read as the statement itself.  This needs fields that
are written with the letters of fields, and values that are not empty, stay on one line and
contain no separator.  Quotes, keywords and blanks may stand anywhere in a value, and a
keyword may be a field: the quotes around a value keep separators from beginning or ending
across its border, and the quotes that reading drops are those that printing added.
-/

namespace Agenda.Query

open Text

/-- What the parts of a predicate must be like for its canonical form to be read. -/
structure Predicate.IsExpressible (p : Predicate) : Prop where
  field_ne : p.field ≠ ""
  field_letters : ∀ c ∈ p.field.toList, isFieldLetter c = true
  value_ne : p.value ≠ ""
  value_line : '\n' ∉ p.value.toList
  value_isWhole : IsWhole p.value.toList

instance (p : Predicate) : Decidable p.IsExpressible :=
  decidable_of_iff
    (p.field ≠ "" ∧ p.field.toList.all isFieldLetter = true ∧ p.value ≠ "" ∧
      '\n' ∉ p.value.toList ∧ IsWhole p.value.toList)
    ⟨fun ⟨hfield, hletters, hvalue, hline, hwhole⟩ =>
      ⟨hfield, List.all_eq_true.mp hletters, hvalue, hline, hwhole⟩,
    fun h =>
      ⟨h.field_ne, List.all_eq_true.mpr h.field_letters, h.value_ne, h.value_line,
        h.value_isWhole⟩⟩

/-- All predicates of the condition have a canonical form that is read. -/
structure Condition.IsExpressible (c : Condition) : Prop where
  first : c.first.IsExpressible
  rest : ∀ entry ∈ c.rest, entry.2.IsExpressible

instance (c : Condition) : Decidable c.IsExpressible :=
  decidable_of_iff
    (c.first.IsExpressible ∧ c.rest.all (fun entry => decide entry.2.IsExpressible) = true)
    ⟨fun ⟨hfirst, hrest⟩ =>
      ⟨hfirst, fun entry hentry => of_decide_eq_true (List.all_eq_true.mp hrest entry hentry)⟩,
    fun h =>
      ⟨h.first, List.all_eq_true.mpr fun entry hentry => decide_eq_true (h.rest entry hentry)⟩⟩

/-! ### Operands -/

theorem isBar_quote :
  IsBar '\''
  := by
  constructor
  · decide
  · intro joint
    cases joint <;> decide

theorem dropLeading_cons {quote : Char} {text : List Char} (h : text ≠ []) :
  dropLeading quote (quote :: text) = text
  := by
  obtain ⟨c, text, rfl⟩ := List.exists_cons_of_ne_nil h
  rw [dropLeading, if_pos rfl]

theorem dropTrailing_append {quote : Char} {text : List Char} (h : text ≠ []) :
  dropTrailing quote (text ++ [quote]) = text
  := by
  have hreverse : text.reverse ≠ [] := List.reverse_eq_nil_iff.not.mpr h
  rw [dropTrailing, List.reverse_append, List.reverse_singleton, List.singleton_append,
    dropLeading_cons hreverse, List.reverse_reverse]

/-- The value between the quotes of the canonical form. -/
def quoted (value : List Char) : List Char :=
  '\'' :: '"' :: (value ++ ['\'', '"'])

/-- The quotes of the canonical form are dropped, and no others. -/
theorem unquote_quoted {value : List Char} (h : value ≠ []) :
  unquote (quoted value) = value
  := by
  have hends : value ++ ['\'', '"'] = value ++ ['\''] ++ ['"'] := by simp
  rw [unquote, quoted, dropLeading_cons (List.cons_ne_nil _ _), dropLeading_cons (by simp),
    hends, dropTrailing_append (by simp), dropTrailing_append h]

/-- No separator crosses the quotes around a value. -/
theorem isOperand_quoted {value : List Char} (hline : '\n' ∉ value) (hwhole : IsWhole value) :
  IsOperand (quoted value)
  := by
  have hquotes : ∀ later, IsUnbroken ['\'', '"'] later := by
    intro later
    apply isUnbroken_of_forall_not_isBlank
    intro c hc
    obtain rfl | hc := List.mem_cons.mp hc
    · rfl
    · obtain rfl := List.mem_singleton.mp hc
      rfl
  constructor
  · exact ⟨_, _, rfl, isBar_quote⟩
  · have hreverse : (quoted value).reverse = '"' :: ('\'' :: (value.reverse ++ ['"', '\''])) := by
      simp [quoted]
    rw [hreverse, isFlush_cons]
    decide
  · simpa [quoted] using hline
  · intro later
    have hparts : quoted value = ['\'', '"'] ++ (value ++ ['\'', '"']) := rfl
    rw [hparts, isUnbroken_append, isUnbroken_append]
    exact ⟨hquotes _, isBar_quote.isUnbroken _ hwhole, hquotes later⟩

/-! ### Predicates -/

namespace Predicate

/-- The predicate in its canonical form. -/
def text (p : Predicate) : List Char :=
  p.field.toList ++ (p.operator.print.toList ++ quoted p.value.toList)

theorem toList_print (p : Predicate) :
  p.print.toList = p.text
  := by
  have hquotes : "'\"".toList = ['\'', '"'] := rfl
  simp only [print, text, quoted, String.toList_append, hquotes, List.append_assoc,
    List.cons_append, List.nil_append]

variable {p : Predicate}

/-- The canonical form of a predicate is a clause. -/
theorem IsExpressible.isClause (h : p.IsExpressible) :
  IsClause p.text p
  := by
  have hvalue : p.value.toList ≠ [] := String.toList_eq_nil_iff.not.mpr h.value_ne
  have hclause := (isOperand_quoted h.value_line h.value_isWhole).isClause h.field_ne
    h.field_letters p.operator
  rw [unquote_quoted hvalue, String.ofList_toList] at hclause
  apply hclause

end Predicate

/-! ### Conditions and statements -/

/-- The canonical form of a condition spells it. -/
theorem Condition.IsExpressible.spells {c : Condition} (h : c.IsExpressible) :
  Spells c.print.toList c
  := by
  obtain ⟨p, rest⟩ := c
  obtain ⟨hp, hrest⟩ := h
  induction rest generalizing p with
  | nil =>
    rw [print, List.map_nil, String.join_nil, String.append_empty, p.toList_print]
    apply Spells.one hp.isClause
  | cons entry rest ih =>
    obtain ⟨joint, q⟩ := entry
    obtain ⟨hq, hrest⟩ := List.forall_mem_cons.mp hrest
    have hlater := Spells.joined joint hp.isClause (ih q hq hrest)
    have hprint : (print ⟨p, (joint, q) :: rest⟩).toList
        = p.text ++ (joint.separator.text ++ (print ⟨q, rest⟩).toList) := by
      simp [print, Predicate.toList_print, Connective.toList_print]
    rw [hprint]
    apply hlater

/-- A condition in its canonical form is read where a statement has it. -/
theorem parse_print_some {c : Condition} (h : c.IsExpressible) :
  parse (Statement.print ⟨some c⟩) = .ok ⟨some c⟩
  := by
  apply h.spells.parse_eq
  rw [Statement.print, String.toList_append]

/-- A statement is read back from its canonical form. -/
theorem parse_print (s : Statement) (h : ∀ c ∈ s.condition, c.IsExpressible) :
  parse s.print = .ok s
  := by
  obtain ⟨condition⟩ := s
  cases condition with
  | none => rfl
  | some c => apply parse_print_some (h c rfl)

/-- A condition in which keywords are fields, and quotes and keywords stand at the borders of
values. -/
def oddCondition : Condition where
  first := ⟨"and", .contains, " or"⟩
  rest := [(.or, ⟨"LIKE", .equals, "'\" = 'AND "⟩), (.and, ⟨"or", .contains, "like \"'"⟩)]

theorem parse_print_oddCondition :
  oddCondition.IsExpressible ∧
    parse (Statement.print ⟨some oddCondition⟩) = .ok ⟨some oddCondition⟩
  := by
  have hodd : oddCondition.IsExpressible := by decide
  use hodd
  apply parse_print ⟨some oddCondition⟩
  rintro c ⟨⟩
  exact hodd

end Agenda.Query
