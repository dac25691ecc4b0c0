import Agenda.Proofs.Query.Canonical
import Agenda.Proofs.Query.Literal
import Agenda.Proofs.Text.Pattern

/-!
# The pattern of predicates

Predicates have a pattern: a group for the field, which is as long as it can be, a group for the
operator and a group for the value, which is as short as it can be, with quotes around the value
that need not be there.  A segment is read as the predicate in the groups of the first way to find
the pattern in it.
-/

namespace Agenda.Query

open Text

/-! ### The pattern -/

/-- A quote that may be missing. -/
def mark (quote : Char) : Pattern :=
  .optional (.one (· == quote))

/-- What may follow a value. -/
def endPattern : Pattern :=
  .seq (mark '\'') (.seq (mark '"') .finish)

/-- A value, as short as what follows it permits. -/
def valuePattern : Pattern :=
  .seq (.group (.repeated (· != '\n') 1 false)) endPattern

/-- A value with the quotes that may precede it. -/
def operandPattern : Pattern :=
  .seq (mark '\'') (.seq (mark '"') valuePattern)

/-- An operator and an operand, with blanks before them. -/
def comparisonPattern : Pattern :=
  .seq (.repeated isBlank 0 true)
    (.seq (.group (.either (.word Operator.equals.word) (.word Operator.contains.word)))
      (.seq (.repeated isBlank 0 true) operandPattern))

/-- A field and a comparison. -/
def predicatePattern : Pattern :=
  .seq (.group (.repeated isFieldLetter 1 true)) comparisonPattern

/-- The predicate with the parts that the groups of the pattern hold. -/
def Predicate.ofGroups? : List (List Char) → Option Predicate
  | [field, operator, value] =>
    some ⟨String.ofList field, if operator = ['='] then .equals else .contains,
      String.ofList value⟩
  | _ => none

/-! ### Values -/

/-- What the pattern of values admits after a value. -/
def endings : List (List Char) :=
  [[], ['\''], ['"'], ['\'', '"']]

theorem groups?_endPattern (text : List Char) :
  endPattern.groups? text = if text ∈ endings then some [] else none
  := by
  have hfinish : ∀ text, Pattern.finish.groups? text = if text = [] then some [] else none := by
    intro text
    cases text <;> rfl
  rcases text with _ | ⟨c, _ | ⟨d, _ | ⟨e, text⟩⟩⟩ <;>
    simp only [endPattern, mark, Pattern.groups?_optional_seq, hfinish, endings] <;> grind

theorem dropTrailing_of_ne {c quote : Char} (h : c ≠ quote) (text : List Char) :
  dropTrailing quote (text ++ [c]) = text ++ [c]
  := by
  rw [dropTrailing, List.reverse_append, List.reverse_singleton, List.singleton_append,
    dropLeading_of_ne h, List.reverse_cons, List.reverse_reverse]

/-- At most one quote is dropped. -/
theorem dropLeading_cases (quote : Char) (text : List Char) :
  text = dropLeading quote text ∨ text = quote :: dropLeading quote text
  := by
  fun_cases dropLeading quote text with
  | case1 d rest =>
    right
    rfl
  | case2 c d rest hc =>
    left
    rfl
  | case3 =>
    left
    rfl

theorem dropTrailing_cases (quote : Char) (text : List Char) :
  text = dropTrailing quote text ∨ text = dropTrailing quote text ++ [quote]
  := by
  rw [dropTrailing, ← List.reverse_cons, ← List.reverse_eq_iff, ← List.reverse_eq_iff]
  apply dropLeading_cases

/-- The text without one quote of each kind at its end. -/
def dropEnding (text : List Char) : List Char :=
  dropTrailing '\'' (dropTrailing '"' text)

theorem dropEnding_ne_nil {text : List Char} (h : text ≠ []) :
  dropEnding text ≠ []
  := dropTrailing_ne_nil (dropTrailing_ne_nil h)

/-- What is dropped at the end is one of the endings. -/
theorem exists_ending (text : List Char) :
  ∃ ending ∈ endings, text = dropEnding text ++ ending
  := by
  obtain hdouble | hdouble := dropTrailing_cases '"' text
  · obtain hsingle | hsingle := dropTrailing_cases '\'' (dropTrailing '"' text)
    · exact ⟨[], by decide, by rw [dropEnding, ← hsingle, List.append_nil, ← hdouble]⟩
    · exact ⟨['\''], by decide, by rw [dropEnding, ← hsingle, ← hdouble]⟩
  · obtain hsingle | hsingle := dropTrailing_cases '\'' (dropTrailing '"' text)
    · exact ⟨['"'], by decide, by rw [dropEnding, ← hsingle, ← hdouble]⟩
    · refine ⟨['\'', '"'], by decide, ?_⟩
      have hends : ['\'', '"'] = ['\''] ++ ['"'] := rfl
      rw [dropEnding, hends, ← List.append_assoc, ← hsingle, ← hdouble]

/-- An ending is dropped when something precedes it. -/
theorem length_dropEnding_le {front ending : List Char} (hfront : front ≠ [])
    (h : ending ∈ endings) :
  (dropEnding (front ++ ending)).length ≤ front.length
  := by
  simp only [endings, List.mem_cons, List.not_mem_nil, or_false] at h
  rcases h with rfl | rfl | rfl | rfl
  · rw [List.append_nil]
    apply ((dropTrailing_isPrefix _ _).trans (dropTrailing_isPrefix _ _)).length_le
  · rw [dropEnding, dropTrailing_of_ne (by decide), dropTrailing_append hfront]
  · rw [dropEnding, dropTrailing_append hfront]
    apply (dropTrailing_isPrefix _ _).length_le
  · have hends : front ++ ['\'', '"'] = front ++ ['\''] ++ ['"'] := by simp
    rw [dropEnding, hends, dropTrailing_append (by simp), dropTrailing_append hfront]

/-- The text is not empty and has no line feed. -/
def IsLine (text : List Char) : Prop :=
  text ≠ [] ∧ '\n' ∉ text

instance (text : List Char) : Decidable (IsLine text) :=
  inferInstanceAs (Decidable (text ≠ [] ∧ '\n' ∉ text))

/-- A text is a line when characters other than line feeds precede an ending in it. -/
theorem isLine_of_drop_mem_endings {text : List Char} {n : Nat} (hpos : 1 ≤ n)
    (hle : n ≤ (text.takeWhile (· != '\n')).length) (h : text.drop n ∈ endings) :
  IsLine text
  := by
  constructor
  · rintro rfl
    apply Nat.not_succ_le_zero 0 (le_trans hpos hle)
  · intro hmem
    rw [← List.take_append_drop n text, List.mem_append] at hmem
    obtain hfront | hending := hmem
    · have hstart : text.take n <+: text.takeWhile (· != '\n') := by
        apply List.prefix_of_prefix_length_le (List.take_prefix n text) (List.takeWhile_prefix _)
        apply le_trans (List.length_take_le n text) hle
      have hclass := List.mem_takeWhile_imp (hstart.subset hfront)
      contradiction
    · have hquotes : endings.all (!·.contains '\n') = true := rfl
      have hnot := List.all_eq_true.mp hquotes _ h
      simp [hending] at hnot

/-- The shortest value that an ending follows is what remains when the ending is dropped. -/
theorem groups?_valuePattern (text : List Char) :
  valuePattern.groups? text = if IsLine text then some [dropEnding text] else none
  := by
  split
  · next hline =>
    obtain ⟨ending, hending, htext⟩ := exists_ending text
    have htake : (dropEnding text ++ ending).take (dropEnding text).length = dropEnding text :=
      List.take_left
    have hdrop : (dropEnding text ++ ending).drop (dropEnding text).length = ending :=
      List.drop_left
    have hlength : (dropEnding text ++ ending).length = (dropEnding text).length + ending.length :=
      List.length_append
    rw [← htext] at htake hdrop hlength
    have hall : text.takeWhile (· != '\n') = text := by
      apply List.takeWhile_eq_self_iff.mpr
      intro c hc
      apply bne_iff_ne.mpr
      rintro rfl
      apply hline.2 hc
    have hlong : (dropEnding text).length ≤ (text.takeWhile (· != '\n')).length := by
      rw [hall, hlength]
      apply Nat.le_add_right
    have hends : endPattern.groups? (text.drop (dropEnding text).length) = some [] := by
      rw [hdrop, groups?_endPattern, if_pos hending]
    have hshortest : ∀ n, 1 ≤ n → n < (dropEnding text).length →
        endPattern.groups? (text.drop n) = none := by
      intro n hpos hn
      rw [groups?_endPattern, if_neg]
      intro hlater
      have hfront : text.take n ≠ [] := by
        simpa [hline.1] using Nat.ne_of_gt hpos
      have hle := length_dropEnding_le hfront hlater
      rw [List.take_append_drop] at hle
      apply absurd (le_trans hle (List.length_take_le n text)) (Nat.not_le.mpr hn)
    have hvalue := Pattern.groups?_lazy_group_seq endPattern
      (List.length_pos_iff.mpr (dropEnding_ne_nil hline.1)) hlong hends hshortest
    rw [htake] at hvalue
    exact hvalue
  · next hline =>
    rw [valuePattern, Pattern.groups?_group_seq, Pattern.ways, List.findSome?_map]
    apply List.findSome?_eq_none_iff.mpr
    intro n hn
    rw [Pattern.lengths, if_neg Bool.false_ne_true, List.mem_range'_1] at hn
    rw [Function.comp_apply, groups?_endPattern, if_neg]
    · rfl
    · intro hending
      apply hline (isLine_of_drop_mem_endings hn.1 (by omega) hending)

/-- Where a value is found after a quote, it is also found before it, so that a quote is dropped
if something remains. -/
theorem groups?_mark_seq {quote : Char} (hquote : quote ≠ '\n') {q : Pattern}
    {value : List Char → List Char}
    (hq : ∀ text, q.groups? text = if IsLine text then some [value text] else none)
    (text : List Char) :
  (Pattern.seq (mark quote) q).groups? text
    = if IsLine text then some [value (dropLeading quote text)] else none
  := by
  rw [mark, Pattern.groups?_optional_seq]
  rcases text with _ | ⟨c, _ | ⟨d, text⟩⟩
  · rw [hq, if_neg, if_neg] <;> simp [IsLine]
  · have hnil : ¬ IsLine [] := by simp [IsLine]
    simp only [hq, if_neg hnil, Option.none_or, ite_self, dropLeading]
  · simp only [hq, dropLeading]
    by_cases hc : c = quote
    · have hiff : IsLine (c :: d :: text) ↔ IsLine (d :: text) := by
        simp [IsLine, hc, hquote.symm]
      rw [if_pos (beq_iff_eq.mpr hc), if_pos hc]
      simp only [hiff]
      split <;> rfl
    · rw [if_neg (beq_iff_eq.not.mpr hc), if_neg hc]

theorem groups?_operandPattern (text : List Char) :
  operandPattern.groups? text = if IsLine text then some [unquote text] else none
  := by
  have hdouble : ∀ text, (Pattern.seq (mark '"') valuePattern).groups? text
      = if IsLine text then some [dropEnding (dropLeading '"' text)] else none :=
    groups?_mark_seq (by decide) groups?_valuePattern
  apply groups?_mark_seq (by decide) hdouble

/-! ### Comparisons -/

/-- A group with an operator holds the operator at the front of the text. -/
theorem groups?_operator_seq (q : Pattern) (text : List Char) :
  (Pattern.seq (.group (.either (.word Operator.equals.word) (.word Operator.contains.word)))
      q).groups? text
    = (operator? text).bind fun found =>
      (q.groups? found.2).map (text.take found.1.word.length :: ·)
  := by
  rw [Pattern.groups?_group_seq, Pattern.ways, Pattern.ways_word, Pattern.ways_word,
    List.findSome?_append]
  rcases text with _ | ⟨c, text⟩
  · rfl
  · by_cases hc : c = '='
    · subst hc
      have hequals : keyword? Operator.equals.word ('=' :: text) = some text := rfl
      have hcontains : keyword? Operator.contains.word ('=' :: text) = none := rfl
      have hoperator : operator? ('=' :: text) = some (.equals, text) := rfl
      rw [hequals, hcontains, hoperator]
      simp
    · have hequals : keyword? Operator.equals.word (c :: text) = none := by
        rw [Operator.word, keyword?, if_neg]
        intro hfold
        apply hc (eq_of_foldLetter_eq_equals hfold)
      have hoperator : operator? (c :: text)
          = (keyword? Operator.contains.word (c :: text)).map (.contains, ·) := by
        rw [operator?.eq_def]
        split
        · next heq => apply absurd (List.cons.inj heq).1 hc
        · rfl
      rw [hequals, hoperator]
      cases keyword? Operator.contains.word (c :: text) <;> simp

/-- Before the last of the characters of a class that begin a text, the rest begins with one. -/
theorem exists_drop_eq_cons {isIn : Char → Bool} {text : List Char} {n : Nat}
    (h : n < (text.takeWhile isIn).length) :
  ∃ c rest, text.drop n = c :: (rest ++ text.dropWhile isIn) ∧ isIn c = true
  := by
  have hparts : (text.takeWhile isIn ++ text.dropWhile isIn).drop n
      = (text.takeWhile isIn).drop n ++ text.dropWhile isIn :=
    List.drop_append_of_le_length (Nat.le_of_lt h)
  rw [List.takeWhile_append_dropWhile, List.drop_eq_getElem_cons h] at hparts
  exact ⟨_, _, hparts, List.mem_takeWhile_imp (List.getElem_mem h)⟩

theorem isFlush_reverse_of_isSuffix {text rest : List Char} (h : IsFlush text.reverse)
    (hrest : rest <:+ text) :
  IsFlush rest.reverse
  := h.of_isPrefix (List.reverse_prefix.mpr hrest)

/-- An operand begins after all blanks, since a text that does not end with a blank has no operand
before the last of them that it does not have after it. -/
theorem groups?_blanks_seq_operandPattern {text : List Char} (h : IsFlush text.reverse) :
  (Pattern.seq (.repeated isBlank 0 true) operandPattern).groups? text
    = if IsLine (dropBlanks text) then some [unquote (dropBlanks text)] else none
  := by
  rw [← groups?_operandPattern]
  apply Pattern.groups?_greedy_seq
  intro hnone n hn
  rw [groups?_operandPattern] at hnone ⊢
  obtain ⟨c, front, hdrop, hc⟩ := exists_drop_eq_cons hn
  rw [if_neg]
  intro hline
  apply Option.some_ne_none _ ((if_pos _).symm.trans hnone)
  constructor
  · intro hnil
    -- a text of blanks only would end with one
    have hblanks : ∀ d ∈ text, isBlank d = true := List.dropWhile_eq_nil_iff.mp hnil
    have hne : text.reverse ≠ [] := by
      rintro heq
      rw [List.reverse_eq_nil_iff.mp heq] at hn
      contradiction
    obtain ⟨d, rest, hreverse⟩ := List.exists_cons_of_ne_nil hne
    have hlast := h d (by rw [hreverse]; rfl)
    rw [hblanks d (List.mem_reverse.mp (by rw [hreverse]; apply List.mem_cons_self))] at hlast
    contradiction
  · intro hmem
    apply hline.2
    rw [hdrop]
    apply List.mem_cons_of_mem _ (List.mem_append_right _ hmem)

/-- What the pattern of comparisons finds is what is read as a comparison. -/
theorem groups?_comparisonPattern {text : List Char} (h : IsFlush text.reverse) :
  comparisonPattern.groups? text = (comparison? text).map fun found =>
    [(dropBlanks text).take found.1.word.length, unquote found.2]
  := by
  have hblanks : comparisonPattern.groups? text
      = (Pattern.seq (.group (.either (.word Operator.equals.word) (.word Operator.contains.word)))
        (.seq (.repeated isBlank 0 true) operandPattern)).groups? (dropBlanks text) := by
    apply Pattern.groups?_greedy_seq
    intro _ n hn
    obtain ⟨c, rest, hdrop, hc⟩ := exists_drop_eq_cons hn
    rw [groups?_operator_seq]
    cases hoperator : operator? (text.drop n) with
    | none => rfl
    | some found =>
      obtain ⟨word, hword, heq⟩ := operator?_eq_some_iff.mp hoperator
      have hflush := Operator.isFlush_word_append hword found.2
      rw [← heq, hdrop, isFlush_cons, hc] at hflush
      contradiction
  rw [hblanks, groups?_operator_seq, comparison?]
  cases hoperator : operator? (dropBlanks text) with
  | none => rfl
  | some found =>
    obtain ⟨word, -, heq⟩ := operator?_eq_some_iff.mp hoperator
    have hrest : found.2 <:+ text := by
      apply List.IsSuffix.trans _ (List.dropWhile_suffix isBlank)
      exact ⟨word, heq.symm⟩
    rw [Option.bind_some, groups?_blanks_seq_operandPattern (isFlush_reverse_of_isSuffix h hrest)]
    by_cases hline : IsLine (dropBlanks found.2)
    · simp [hline, hline.1, hline.2]
    · have hnone : ((dropBlanks found.2).isEmpty || (dropBlanks found.2).contains '\n') = true := by
        rw [Bool.or_eq_true, List.isEmpty_iff, List.contains_iff_mem]
        by_contra hnot
        apply hline (not_or.mp hnot)
      simp only [hline, hnone, if_true, if_false, Option.bind_eq_bind, Option.bind_some,
        Option.map_none]

/-! ### Predicates -/

theorem predicateWithin?_eq (text : List Char) (n : Nat) :
  predicateWithin? text n = (List.range' 1 n).reverse.findSome? fun k =>
    (comparison? (text.drop k)).map fun found =>
      ⟨String.ofList (text.take k), found.1, String.ofList (unquote found.2)⟩
  := by
  induction n with
  | zero => rfl
  | succ n ih =>
    rw [predicateWithin?, ih, List.range'_1_concat, List.reverse_append, Nat.add_comm 1 n]
    simp only [List.reverse_singleton, List.singleton_append, List.findSome?_cons]
    cases comparison? (text.drop (n + 1)) <;> rfl

/-- The groups of a comparison tell its operator. -/
theorem ofGroups?_comparison {text operand : List Char} {operator : Operator}
    (h : comparison? text = some (operator, operand)) (field : List Char) :
  Predicate.ofGroups? [field, (dropBlanks text).take operator.word.length, unquote operand]
    = some ⟨String.ofList field, operator, String.ofList (unquote operand)⟩
  := by
  obtain ⟨c, rfl, rfl, rfl⟩ := exists_comparison h
  have hword : (dropBlanks c.text).take c.operator.word.length = c.word := by
    rw [Comparison.text, dropBlanks_append c.before_isBlank
      (Operator.isFlush_word_append c.word_eq _), ← c.word_eq, List.length_map, List.take_left]
  have hoperator : (if c.word = ['='] then Operator.equals else Operator.contains) = c.operator := by
    have hfold := c.word_eq
    cases hop : c.operator with
    | equals =>
      rw [hop] at hfold
      obtain ⟨d, rest, hw, hd, hnil⟩ := List.map_eq_cons_iff.mp hfold
      rw [hw, eq_of_foldLetter_eq_equals hd, List.map_eq_nil_iff.mp hnil, if_pos rfl]
    | contains =>
      rw [hop] at hfold
      rw [if_neg]
      intro heq
      rw [heq] at hfold
      contradiction
  rw [hword, Predicate.ofGroups?, hoperator]

/-- The first result for which a reading is found is read. -/
theorem findSome?_bind {α β γ : Type} {l : List α} {f : α → Option β} {g : β → Option γ}
    {f' : α → Option γ} (hnone : ∀ a ∈ l, f' a = none → f a = none)
    (h : ∀ a ∈ l, (f a).bind g = f' a) :
  (l.findSome? f).bind g = l.findSome? f'
  := by
  induction l with
  | nil => rfl
  | cons a l ih =>
    obtain ⟨hnone, hnones⟩ := List.forall_mem_cons.mp hnone
    obtain ⟨ha, hl⟩ := List.forall_mem_cons.mp h
    rw [List.findSome?_cons, List.findSome?_cons]
    cases hf' : f' a with
    | none => rw [hnone hf', ih hnones hl]
    | some c =>
      rw [hf'] at ha
      obtain ⟨b, hb, hc⟩ := Option.bind_eq_some_iff.mp ha
      rw [hb]
      exact hc

/-- A trimmed segment is read as the predicate in the groups of its pattern. -/
theorem groups?_predicatePattern_bind {segment : List Char} (h : IsFlush segment.reverse) :
  (predicatePattern.groups? segment).bind Predicate.ofGroups? = predicate? segment
  := by
  have hcomparison : ∀ n, comparisonPattern.groups? (segment.drop n) = _ := fun n =>
    groups?_comparisonPattern (isFlush_reverse_of_isSuffix h (List.drop_suffix n segment))
  rw [predicate?, predicateWithin?_eq, predicatePattern, Pattern.groups?_group_seq, Pattern.ways,
    List.findSome?_map, Pattern.lengths, if_pos rfl, Nat.add_sub_cancel]
  apply findSome?_bind
  · intro n _ hnone
    rw [Function.comp_apply, hcomparison, Option.map_eq_none_iff.mp hnone]
    rfl
  · intro n _
    rw [Function.comp_apply, hcomparison]
    cases hfound : comparison? (segment.drop n) with
    | none => rfl
    | some found => apply ofGroups?_comparison hfound

/-- A segment is read as the predicate in the groups of its pattern, found in the first way.  It
is no predicate just when, trimmed, it has no reading, and otherwise it is that of its reading
with the longest field. -/
theorem parsePredicate_firstMatch (segment : String) :
  parsePredicate segment = (match (predicatePattern.groups? (trimChars segment.toList)).bind
      Predicate.ofGroups? with
    | some p => .ok p
    | none => .error (.unsupportedClause (trim segment)))
  ∧ (parsePredicate segment = .error (.unsupportedClause (trim segment)) ↔
    ∀ r : Reading, r.text ≠ trimChars segment.toList)
  ∧ ∀ p, parsePredicate segment = .ok p ↔ IsPredicate (trimChars segment.toList) p
  := by
  have hparse : parsePredicate segment = (match predicate? (trimChars segment.toList) with
    | some p => .ok p
    | none => .error (.unsupportedClause (trim segment))) := rfl
  rw [groups?_predicatePattern_bind (isFlush_reverse_trimChars _)]
  refine ⟨hparse, ?_, ?_⟩
  · rw [hparse, ← predicate?_eq_none_iff]
    cases predicate? (trimChars segment.toList) <;> simp
  · intro p
    rw [hparse, ← predicate?_eq_some_iff]
    cases predicate? (trimChars segment.toList) <;> simp

/-- A field takes an operator into itself when another one follows, and a value of quotes only
keeps one of them. -/
example : parsePredicate "titleLIKE = '\"'" = .ok ⟨"titleLIKE", .equals, "'"⟩ := by
  decide +kernel

end Agenda.Query
