import Agenda.Proofs.Text.Front
import Agenda.Query.Parser

/-!
# Predicates as texts

A `Reading` of a segment takes it as a field, an operator and an operand, with blanks around
the operator.  A segment may have several readings: `titleLIKE = x` has the field `title` or
the field `titleLIKE`.  The segment is the predicate of the reading with the longest field,
and this is what `predicate?` finds.
-/

namespace Agenda.Query

open Text

/-- The operator as it stands in the language. -/
def Operator.word : Operator → List Char
  | .equals => ['=']
  | .contains => ['L', 'I', 'K', 'E']

/-- An operator in any letter case before an operand, with blanks before and after it.  The
operand begins after the last of these blanks, and it has no line feed. -/
structure Comparison where
  before : List Char
  operator : Operator
  word : List Char
  after : List Char
  operand : List Char
  before_isBlank : ∀ c ∈ before, isBlank c = true
  word_eq : word.map foldLetter = operator.word
  after_isBlank : ∀ c ∈ after, isBlank c = true
  operand_ne_nil : operand ≠ []
  operand_isFlush : IsFlush operand
  operand_line : '\n' ∉ operand

/-- The comparison as a text. -/
def Comparison.text (c : Comparison) : List Char :=
  c.before ++ (c.word ++ (c.after ++ c.operand))

/-- A field with the comparison that follows it. -/
structure Reading where
  field : List Char
  comparison : Comparison
  field_ne_nil : field ≠ []
  field_letters : ∀ c ∈ field, isFieldLetter c = true

/-- The text that is read. -/
def Reading.text (r : Reading) : List Char :=
  r.field ++ r.comparison.text

/-- The predicate that is read.  Its value is the operand without one quote of each kind at
either end. -/
def Reading.predicate (r : Reading) : Predicate where
  field := String.ofList r.field
  operator := r.comparison.operator
  value := String.ofList (unquote r.comparison.operand)

/-- The segment is the predicate of its reading with the longest field. -/
def IsPredicate (segment : List Char) (p : Predicate) : Prop :=
  ∃ r : Reading, r.text = segment ∧ r.predicate = p
    ∧ ∀ other : Reading, other.text = segment → other.field.length ≤ r.field.length

/-! ### Operators and operands -/

theorem eq_of_foldLetter_eq_equals {c : Char} (h : foldLetter c = '=') :
  c = '='
  := by
  rw [foldLetter] at h
  split at h
  · contradiction
  · split at h
    · contradiction
    · delta Char.toUpper at h
      split at h
      · next hsmall =>
        have hcode : (c.val + ('A'.val - 'a'.val)).toNat = 61 := congrArg (·.val.toNat) h
        have hbounds : 97 ≤ c.toNat ∧ c.toNat ≤ 122 := hsmall
        simp [UInt32.toNat_add] at hcode
        omega
      · exact h

theorem operator?_eq_some_iff {text rest : List Char} {operator : Operator} :
  operator? text = some (operator, rest) ↔
    ∃ word, word.map foldLetter = operator.word ∧ text = word ++ rest
  := by
  rw [operator?.eq_def]
  split
  · next tail =>
    rw [Option.some.injEq, Prod.mk.injEq]
    constructor
    · rintro ⟨rfl, rfl⟩
      exact ⟨['='], rfl, rfl⟩
    · rintro ⟨word, hword, htext⟩
      cases operator with
      | equals =>
        obtain ⟨c, _, rfl, -, hnil⟩ := List.map_eq_cons_iff.mp hword
        obtain rfl := List.map_eq_nil_iff.mp hnil
        exact ⟨rfl, (List.cons.inj htext).2⟩
      | contains =>
        obtain ⟨c, _, rfl, hc, -⟩ := List.map_eq_cons_iff.mp hword
        obtain ⟨rfl, -⟩ := List.cons.inj htext
        contradiction
  · next hequals =>
    rw [Option.map_eq_some_iff]
    constructor
    · rintro ⟨tail, htail, heq⟩
      obtain ⟨rfl, rfl⟩ := Prod.mk.inj heq
      apply keyword?_eq_some_iff.mp htail
    · rintro ⟨word, hword, rfl⟩
      cases operator with
      | equals =>
        obtain ⟨c, _, rfl, hc, hnil⟩ := List.map_eq_cons_iff.mp hword
        obtain rfl := List.map_eq_nil_iff.mp hnil
        obtain rfl := eq_of_foldLetter_eq_equals hc
        apply absurd rfl (hequals rest)
      | contains =>
        use rest
        exact ⟨keyword?_eq_some_iff.mpr ⟨word, hword, rfl⟩, rfl⟩

/-- Operators do not begin with a blank, so that the blanks before one end there. -/
theorem Operator.isFlush_word_append {operator : Operator} {word : List Char}
    (h : word.map foldLetter = operator.word) (rest : List Char) :
  IsFlush (word ++ rest)
  := by
  have hword : operator.word ≠ [] ∧ IsFlush operator.word := by
    cases operator <;> exact ⟨List.cons_ne_nil _ _, isFlush_cons.mpr rfl⟩
  apply isFlush_append_of_map_foldLetter hword.1 hword.2 h

theorem comparison?_text (c : Comparison) :
  comparison? c.text = some (c.operator, c.operand)
  := by
  have hbefore : dropBlanks c.text = c.word ++ (c.after ++ c.operand) :=
    dropBlanks_append c.before_isBlank (Operator.isFlush_word_append c.word_eq _)
  have hoperator : operator? (c.word ++ (c.after ++ c.operand))
      = some (c.operator, c.after ++ c.operand) :=
    operator?_eq_some_iff.mpr ⟨c.word, c.word_eq, rfl⟩
  have hafter : dropBlanks (c.after ++ c.operand) = c.operand :=
    dropBlanks_append c.after_isBlank c.operand_isFlush
  rw [comparison?, hbefore, hoperator]
  simp [hafter, c.operand_ne_nil, c.operand_line]

/-- Where operator and operand are found, there is a comparison. -/
theorem exists_comparison {text operand : List Char} {operator : Operator}
    (h : comparison? text = some (operator, operand)) :
  ∃ c : Comparison, c.text = text ∧ c.operator = operator ∧ c.operand = operand
  := by
  have hblanks : ∀ s : List Char, s.takeWhile isBlank ++ dropBlanks s = s := fun _ =>
    List.takeWhile_append_dropWhile
  have hfront : ∀ s : List Char, ∀ c ∈ s.takeWhile isBlank, isBlank c = true := fun _ _ =>
    List.mem_takeWhile_imp
  simp only [comparison?, Option.bind_eq_bind, Option.bind_eq_some_iff] at h
  obtain ⟨⟨found, rest⟩, hfound, hsome⟩ := h
  obtain ⟨word, hword, hrest⟩ := operator?_eq_some_iff.mp hfound
  split at hsome
  · contradiction
  · next hoperand =>
    obtain ⟨rfl, rfl⟩ := Prod.mk.inj (Option.some.inj hsome)
    rw [Bool.or_eq_true, not_or, List.isEmpty_iff, List.contains_iff_mem] at hoperand
    refine ⟨⟨text.takeWhile isBlank, found, word, rest.takeWhile isBlank, dropBlanks rest,
      hfront text, hword, hfront rest, hoperand.1, isFlush_dropBlanks rest, hoperand.2⟩, ?_,
      rfl, rfl⟩
    rw [Comparison.text, hblanks, ← hrest, hblanks]

/-! ### The longest field -/

/-- The field of a reading is at the front of the letters with which its text begins. -/
theorem Reading.length_field_le (r : Reading) :
  r.field.length ≤ (r.text.takeWhile isFieldLetter).length
  := by
  rw [text, List.takeWhile_append_of_pos r.field_letters, List.length_append]
  apply Nat.le_add_right

theorem Reading.comparison?_drop (r : Reading) :
  comparison? (r.text.drop r.field.length) = some (r.comparison.operator, r.comparison.operand)
  := by
  rw [text, List.drop_left]
  apply comparison?_text

/-- Where a comparison follows letters, there is a reading with these letters as its field. -/
theorem exists_reading {segment operand : List Char} {operator : Operator} {n : Nat}
    (hpos : 0 < n) (hle : n ≤ (segment.takeWhile isFieldLetter).length)
    (h : comparison? (segment.drop n) = some (operator, operand)) :
  ∃ r : Reading, r.text = segment ∧ r.field = segment.take n ∧ r.field.length = n
    ∧ r.predicate = ⟨String.ofList (segment.take n), operator, String.ofList (unquote operand)⟩
  := by
  obtain ⟨c, htext, rfl, rfl⟩ := exists_comparison h
  have hprefix := List.takeWhile_prefix isFieldLetter (l := segment)
  have htake : segment.take n <+: segment.takeWhile isFieldLetter := by
    apply List.prefix_of_prefix_length_le (List.take_prefix n segment) hprefix
    apply le_trans (List.length_take_le n segment) hle
  have hlength : (segment.take n).length = n := by
    apply List.length_take_of_le (le_trans hle hprefix.length_le)
  refine ⟨⟨segment.take n, c, ?_, ?_⟩, ?_, rfl, hlength, rfl⟩
  · apply List.ne_nil_of_length_pos
    rw [hlength]
    exact hpos
  · intro d hd
    apply List.mem_takeWhile_imp (htake.subset hd)
  · rw [Reading.text, htext, List.take_append_drop]

variable {segment : List Char} {p : Predicate} {n : Nat}

theorem predicateWithin?_sound (hle : n ≤ (segment.takeWhile isFieldLetter).length)
    (h : predicateWithin? segment n = some p) :
  ∃ r : Reading, r.text = segment ∧ r.predicate = p ∧ ∀ other : Reading, other.text = segment →
    other.field.length ≤ n → other.field.length ≤ r.field.length
  := by
  induction n with
  | zero => contradiction
  | succ n ih =>
    rw [predicateWithin?] at h
    cases hfound : comparison? (segment.drop (n + 1)) with
    | some found =>
      obtain ⟨r, htext, -, hlength, hpredicate⟩ := exists_reading (Nat.succ_pos n) hle hfound
      rw [hfound] at h
      use r, htext
      constructor
      · rw [hpredicate]
        exact Option.some.inj h
      · intro other _ hother
        rw [hlength]
        exact hother
    | none =>
      rw [hfound] at h
      obtain ⟨r, htext, hpredicate, hlongest⟩ := ih (Nat.le_of_succ_le hle) h
      use r, htext, hpredicate
      intro other hother hlength
      apply hlongest other hother
      -- no reading has a field of exactly this length
      apply Nat.le_of_lt_succ (lt_of_le_of_ne hlength _)
      intro heq
      have hcomparison := other.comparison?_drop
      rw [hother, heq, hfound] at hcomparison
      contradiction

/-- Readings of one text with fields of one length are readings as the same predicate. -/
theorem Reading.predicate_eq {r other : Reading} (htext : other.text = r.text)
    (hlength : other.field.length = r.field.length) :
  other.predicate = r.predicate
  := by
  have hfield : other.field = r.field := by
    apply List.append_inj_left htext hlength
  have hcomparison := other.comparison?_drop
  rw [htext, hlength, r.comparison?_drop] at hcomparison
  obtain ⟨hoperator, hoperand⟩ := Prod.mk.inj (Option.some.inj hcomparison)
  rw [predicate, predicate, hfield, hoperator, hoperand]

theorem isSome_predicateWithin? (r : Reading) (hle : r.field.length ≤ n) :
  (predicateWithin? r.text n).isSome = true
  := by
  induction n with
  | zero => apply absurd (List.length_eq_zero_iff.mp (Nat.le_zero.mp hle)) r.field_ne_nil
  | succ n ih =>
    rw [predicateWithin?]
    cases hfound : comparison? (r.text.drop (n + 1)) with
    | some found => rfl
    | none =>
      apply ih
      apply Nat.le_of_lt_succ (lt_of_le_of_ne hle _)
      intro heq
      rw [← Nat.succ_eq_add_one, ← heq, r.comparison?_drop] at hfound
      contradiction

/-- A segment that has a reading is read as some predicate. -/
theorem predicate?_eq_none_iff :
  predicate? segment = none ↔ ∀ r : Reading, r.text ≠ segment
  := by
  constructor
  · rintro hnone r rfl
    have hsome := isSome_predicateWithin? r r.length_field_le
    rw [predicate?] at hnone
    rw [hnone] at hsome
    contradiction
  · intro h
    cases hsome : predicate? segment with
    | none => rfl
    | some p =>
      obtain ⟨r, htext, -⟩ := predicateWithin?_sound le_rfl hsome
      apply absurd htext (h r)

/-- A segment is read as the predicate that it is. -/
theorem predicate?_eq_some_iff :
  predicate? segment = some p ↔ IsPredicate segment p
  := by
  have hsound : ∀ {q}, predicate? segment = some q → IsPredicate segment q := by
    intro q h
    obtain ⟨r, htext, hpredicate, hlongest⟩ := predicateWithin?_sound le_rfl h
    use r, htext, hpredicate
    intro other hother
    apply hlongest other hother
    rw [← hother]
    apply other.length_field_le
  constructor
  · apply hsound
  · rintro ⟨r, htext, rfl, hlongest⟩
    cases hfound : predicate? segment with
    | none => apply absurd htext (predicate?_eq_none_iff.mp hfound r)
    | some q =>
      obtain ⟨other, hother, rfl, hlonger⟩ := hsound hfound
      have hlength := le_antisymm (hlongest other hother) (hlonger r htext)
      rw [Reading.predicate_eq (hother.trans htext.symm) hlength]

end Agenda.Query
