import Agenda.Proofs.Query.Printing
import Agenda.Query.Select

/-!
# Conditions that are read

Every condition that is read from some query has a canonical form, which is read as that
condition.  A piece of a cut holds no separator, for none begins within it and a separator that
ends within it begins there too.  The value of a predicate is a part of its segment that is
never empty: a quote is dropped only where a character remains.  Hence no predicate that is read
compares a field with the empty text.
-/

namespace Agenda.Query

open Text

/-! ### The pieces of a cut -/

theorem Separator.text_ne_nil (s : Separator) :
  s.text ≠ []
  := by
  rw [text, List.append_assoc]
  apply List.append_ne_nil_of_left_ne_nil s.before_isGap.ne_nil

theorem IsWhole.of_isInfix {text part : List Char} (h : IsWhole text) (hpart : part <:+: text) :
  IsWhole part
  := by
  intro s hs
  apply h s (hs.trans hpart)

/-- A text in which no separator begins has none. -/
theorem IsUnbroken.isWhole {text later : List Char} (h : IsUnbroken text later) :
  IsWhole text
  := by
  rintro s ⟨before, after, rfl⟩
  apply h (s.text ++ after) (List.append_ne_nil_of_left_ne_nil s.text_ne_nil _) _ s
  · rw [List.append_assoc]
    apply List.prefix_append
  · rw [List.append_assoc]
    apply List.suffix_append

/-- Every segment is a part of the text that has no separator. -/
theorem IsCut.isWhole_segment {text segment : List Char} {c : Cut} (h : IsCut text c)
    (hsegment : segment ∈ c.segments) :
  IsWhole segment
  := by
  induction h with
  | whole hwhole =>
    obtain rfl := List.mem_singleton.mp hsegment
    apply hwhole.of_isInfix (trimChars_isInfix _)
  | separator s hbefore _ _ ih =>
    obtain rfl | hlater := List.mem_cons.mp hsegment
    · apply hbefore.isWhole.of_isInfix (trimChars_isInfix _)
    · apply ih hlater

/-! ### The value of an operand -/

theorem dropLeading_ne_nil {quote : Char} {text : List Char} (h : text ≠ []) :
  dropLeading quote text ≠ []
  := by
  fun_cases dropLeading quote text with
  | case1 d rest => apply List.cons_ne_nil
  | case2 c d rest hc => apply List.cons_ne_nil
  | case3 => apply h

theorem dropLeading_isSuffix (quote : Char) (text : List Char) :
  dropLeading quote text <:+ text
  := by
  fun_cases dropLeading quote text with
  | case1 d rest => apply List.suffix_cons
  | case2 c d rest hc => apply List.suffix_refl
  | case3 => apply List.suffix_refl

theorem dropTrailing_ne_nil {quote : Char} {text : List Char} (h : text ≠ []) :
  dropTrailing quote text ≠ []
  := by
  apply List.reverse_eq_nil_iff.not.mpr
  apply dropLeading_ne_nil
  apply List.reverse_eq_nil_iff.not.mpr h

theorem dropTrailing_isPrefix (quote : Char) (text : List Char) :
  dropTrailing quote text <+: text
  := by
  rw [dropTrailing, ← List.reverse_suffix, List.reverse_reverse]
  apply dropLeading_isSuffix

/-- The value of an operand is not empty. -/
theorem unquote_ne_nil {operand : List Char} (h : operand ≠ []) :
  unquote operand ≠ []
  := by
  apply dropTrailing_ne_nil
  apply dropTrailing_ne_nil
  apply dropLeading_ne_nil
  apply dropLeading_ne_nil h

/-- The value of an operand is a part of it. -/
theorem unquote_isInfix (operand : List Char) :
  unquote operand <:+: operand
  := by
  have hfront : dropLeading '"' (dropLeading '\'' operand) <:+ operand :=
    (dropLeading_isSuffix _ _).trans (dropLeading_isSuffix _ _)
  have hend : unquote operand <+: dropLeading '"' (dropLeading '\'' operand) :=
    (dropTrailing_isPrefix _ _).trans (dropTrailing_isPrefix _ _)
  apply hend.isInfix.trans hfront.isInfix

/-! ### Predicates and conditions -/

theorem Reading.operand_isSuffix (r : Reading) :
  r.comparison.operand <:+ r.text
  := by
  use r.field ++ (r.comparison.before ++ (r.comparison.word ++ r.comparison.after))
  simp only [text, Comparison.text, List.append_assoc]

/-- A segment without a separator is read as a predicate that can be printed. -/
theorem IsPredicate.isExpressible {segment : List Char} {p : Predicate}
    (h : IsPredicate segment p) (hwhole : IsWhole segment) :
  p.IsExpressible
  := by
  obtain ⟨r, rfl, rfl, -⟩ := h
  have hvalue := unquote_isInfix r.comparison.operand
  constructor
  · apply String.toList_eq_nil_iff.not.mp
    rw [Reading.predicate, String.toList_ofList]
    apply r.field_ne_nil
  · rw [Reading.predicate, String.toList_ofList]
    apply r.field_letters
  · apply String.toList_eq_nil_iff.not.mp
    rw [Reading.predicate, String.toList_ofList]
    apply unquote_ne_nil r.comparison.operand_ne_nil
  · rw [Reading.predicate, String.toList_ofList]
    intro hline
    apply r.comparison.operand_line (hvalue.subset hline)
  · rw [Reading.predicate, String.toList_ofList]
    apply hwhole.of_isInfix (hvalue.trans r.operand_isSuffix.isInfix)

/-- The predicates in order. -/
def Condition.predicates (c : Condition) : List Predicate :=
  c.first :: c.rest.map (·.2)

theorem Condition.IsExpressible.predicates {c : Condition} (h : c.IsExpressible)
    {p : Predicate} (hp : p ∈ c.predicates) :
  p.IsExpressible
  := by
  obtain rfl | hrest := List.mem_cons.mp hp
  · apply h.first
  · obtain ⟨entry, hentry, rfl⟩ := List.mem_map.mp hrest
    apply h.rest entry hentry

/-- Segments without separators denote a condition that can be printed. -/
theorem Cut.Denotes.isExpressible {pieces : Cut} {c : Condition} (h : pieces.Denotes c)
    (hwhole : ∀ segment ∈ pieces.segments, IsWhole segment) :
  c.IsExpressible
  := by
  obtain ⟨hfirst, hrest⟩ := h
  obtain ⟨hhead, htail⟩ := List.forall_mem_cons.mp hwhole
  constructor
  · apply hfirst.isExpressible hhead
  · intro entry hentry
    obtain ⟨i, hi, rfl⟩ := List.getElem_of_mem hentry
    have hi' : i < pieces.tail.length := hrest.length_eq ▸ hi
    obtain ⟨-, hpredicate⟩ := hrest.get hi' hi
    apply hpredicate.isExpressible
    apply htail
    apply List.mem_map_of_mem (List.mem_map_of_mem (List.getElem_mem hi'))

/-- A condition that is read from some query can be printed. -/
theorem isExpressible_of_parse {query : String} {c : Condition}
    (h : parse query = .ok ⟨some c⟩) :
  c.IsExpressible
  := by
  have hread := isReadAs_parse query
  rw [h] at hread
  cases hread with
  | condition _ hcut hdenotes =>
    apply hdenotes.isExpressible
    intro segment
    apply hcut.isWhole_segment

/-! ### The image of reading -/

/-- A comparison with a text that is not empty fails where the field shows nothing. -/
theorem Predicate.IsExpressible.holds_eq_false {p : Predicate} (h : p.IsExpressible)
    (hequals : p.operator = .equals) {t : Task} (hempty : (t.field p.field).display = "") :
  p.holds t = false
  := by
  rw [holds, hequals]
  simp only [hempty]
  apply beq_eq_false_iff_ne.mpr h.value_ne.symm

/-- A condition that is read from a query can be printed, and is read back from its canonical
form.  None of its comparisons holds of a task whose field shows nothing, such as a completion
time that is absent or a due date that is empty. -/
theorem canonical_of_parse {query : String} {c : Condition}
    (h : parse query = .ok ⟨some c⟩) :
  c.IsExpressible
    ∧ parse (Statement.print ⟨some c⟩) = .ok ⟨some c⟩
    ∧ ∀ p ∈ c.predicates, p.operator = .equals →
      ∀ t : Task, (t.field p.field).display = "" → p.holds t = false
  := by
  have hexpressible := isExpressible_of_parse h
  refine ⟨hexpressible, parse_print_some hexpressible, ?_⟩
  intro p hp hequals t hempty
  apply (hexpressible.predicates hp).holds_eq_false hequals hempty

/-- A query with folded letters, line breaks between its words, quotes that do not pair up, and
keywords that are left as text. -/
def unevenQuery : String :=
  "\u00A0select\n*\tFROM ta\u017F\u212AswhERE\n\u017FortlikeLIKE'''\"x' OR due=or\"' anD a='\u3000"

/-- The condition that this query has. -/
def unevenCondition : Condition where
  first := ⟨"\u017Fortlike", .contains, "''\"x"⟩
  rest := [(.or, ⟨"due", .equals, "or\""⟩), (.and, ⟨"a", .equals, "'"⟩)]

theorem canonical_of_parse_unevenQuery :
  parse unevenQuery = .ok ⟨some unevenCondition⟩
    ∧ unevenCondition.IsExpressible
    ∧ parse (Statement.print ⟨some unevenCondition⟩) = .ok ⟨some unevenCondition⟩
    ∧ Predicate.holds ⟨"due", .equals, "or\""⟩ ⟨"b", "", "", "", "", false, none⟩ = false
  := by
  have hparse : parse unevenQuery = .ok ⟨some unevenCondition⟩ := by
    decide +kernel
  obtain ⟨hexpressible, hprint, hholds⟩ := canonical_of_parse hparse
  refine ⟨hparse, hexpressible, hprint, ?_⟩
  apply hholds _ _ rfl _ rfl
  apply List.mem_cons_of_mem _ List.mem_cons_self

end Agenda.Query
