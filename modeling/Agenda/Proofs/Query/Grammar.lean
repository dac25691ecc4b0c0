import Mathlib.Data.List.Induction
import Agenda.Proofs.Failure
import Agenda.Proofs.Query.Comparison
import Agenda.Proofs.Query.Cut
import Agenda.Query.Answer

/-!
# The language of queries

`IsReadAs` describes what a query is read as: the statement that it is, or the reason why it
is none.  A query is the opening words alone, or the opening words with `WHERE` and a
condition, and every segment of a condition has to be a predicate.  `parse_eq_iff` says that
each query is read in exactly one way, which is the one that `parse` finds.
-/

namespace Agenda.Query

open Text

/-! ### The form of a statement -/

/-- The text consists of the words in any letter case, with gaps between them. -/
inductive IsPhrase : (words : List (List Char)) → (text : List Char) → Prop
  | last {word front : List Char} : front.map foldLetter = word → IsPhrase [word] front
  | cons {word front gap rest : List Char} {words : List (List Char)} :
    front.map foldLetter = word → IsGap gap → IsPhrase words rest →
    IsPhrase (word :: words) (front ++ (gap ++ rest))

/-- The words with which every statement begins. -/
def opening : List (List Char) :=
  [['S', 'E', 'L', 'E', 'C', 'T'], ['*'], ['F', 'R', 'O', 'M'], ['T', 'A', 'S', 'K', 'S']]

/-- The text is a condition after `WHERE` and a gap: it is not empty, does not begin with a
blank and has no line feed. -/
def Introduces (clause condition : List Char) : Prop :=
  ∃ word gap, word.map foldLetter = ['W', 'H', 'E', 'R', 'E'] ∧ IsGap gap
    ∧ clause = word ++ (gap ++ condition)
    ∧ condition ≠ [] ∧ IsFlush condition ∧ '\n' ∉ condition

/-- The text consists of the opening words and a clause that introduces the condition.  No
blank is needed between the two. -/
def HasCondition (text condition : List Char) : Prop :=
  ∃ front blanks clause, IsPhrase opening front ∧ (∀ c ∈ blanks, isBlank c = true)
    ∧ Introduces clause condition ∧ text = front ++ (blanks ++ clause)

/-! ### The segments of a condition -/

/-- The trimmed pieces. -/
def Cut.segments (c : Cut) : List (List Char) :=
  (c.head :: c.tail.map (·.2)).map trimChars

/-- The condition has one predicate for each segment, and its connectives are those between
the segments. -/
def Cut.Denotes (c : Cut) (condition : Condition) : Prop :=
  IsPredicate (trimChars c.head) condition.first
    ∧ List.Forall₂
      (fun piece joined => piece.1 = joined.1 ∧ IsPredicate (trimChars piece.2) joined.2)
      c.tail condition.rest

/-- The segment is no predicate, while all segments before it are. -/
def Cut.FailsAt (c : Cut) (segment : List Char) : Prop :=
  ∃ before after, c.segments = before ++ segment :: after
    ∧ (∀ s ∈ before, ∃ p, IsPredicate s p) ∧ ∀ p, ¬ IsPredicate segment p

/-- What a query is read as. -/
inductive IsReadAs (query : String) : Except Error Statement → Prop
  /-- The opening words alone select every task. -/
  | all : IsPhrase opening (trimChars query.toList) → IsReadAs query (.ok ⟨none⟩)
  /-- A condition whose segments are predicates selects by them. -/
  | condition {text : List Char} {pieces : Cut} {c : Condition} :
    HasCondition (trimChars query.toList) text → IsCut text pieces → pieces.Denotes c →
    IsReadAs query (.ok ⟨some c⟩)
  /-- The first segment that is no predicate is reported. -/
  | clause {text : List Char} {pieces : Cut} {segment : List Char} :
    HasCondition (trimChars query.toList) text → IsCut text pieces → pieces.FailsAt segment →
    IsReadAs query (.error (.unsupportedClause (String.ofList segment)))
  /-- A query of another form is reported as it stands. -/
  | statement :
    ¬ IsPhrase opening (trimChars query.toList) →
    (∀ text, ¬ HasCondition (trimChars query.toList) text) →
    IsReadAs query (.error (.unsupportedStatement query))

/-! ### Reading the form -/

/-- What follows the words, with gaps between them, at the front of the text. -/
def phrase? : (words : List (List Char)) → (text : List Char) → Option (List Char)
  | [], _ => none
  | [word], text => keyword? word text
  | word :: next :: words, text => ((keyword? word text).bind gap?).bind (phrase? (next :: words))

theorem afterTable?_eq (text : List Char) :
  afterTable? text = phrase? opening text
  := by
  simp only [afterTable?, opening, phrase?, Option.bind_eq_bind, Option.bind_assoc]

/-- A word with a gap after it is cut off a text. -/
theorem keyword?_bind_gap?_eq_some_iff {word text rest : List Char} :
  (keyword? word text).bind gap? = some rest ↔
    ∃ front gap, front.map foldLetter = word ∧ IsGap gap ∧ text = front ++ (gap ++ rest)
      ∧ IsFlush rest
  := by
  simp only [Option.bind_eq_some_iff, keyword?_eq_some_iff, gap?_eq_some_iff]
  constructor
  · rintro ⟨_, ⟨front, hfront, rfl⟩, gap, hgap, rfl, hrest⟩
    exact ⟨front, gap, hfront, hgap, rfl, hrest⟩
  · rintro ⟨front, gap, hfront, hgap, rfl, hrest⟩
    exact ⟨gap ++ rest, ⟨front, hfront, rfl⟩, gap, hgap, rfl, hrest⟩

/-- A word that is not empty and does not begin with a blank. -/
def IsWord (word : List Char) : Prop :=
  word ≠ [] ∧ IsFlush word

theorem IsPhrase.isFlush_append {words : List (List Char)} {text : List Char}
    (h : IsPhrase words text) (hwords : ∀ word ∈ words, IsWord word) (rest : List Char) :
  IsFlush (text ++ rest)
  := by
  cases h with
  | last hfold =>
    obtain ⟨hne, hflush⟩ := hwords _ List.mem_cons_self
    apply isFlush_append_of_map_foldLetter hne hflush hfold
  | cons hfold _ _ =>
    obtain ⟨hne, hflush⟩ := hwords _ List.mem_cons_self
    rw [List.append_assoc]
    apply isFlush_append_of_map_foldLetter hne hflush hfold

/-- A phrase is read wherever it stands. -/
theorem phrase?_eq_some_iff {words : List (List Char)} {text rest : List Char}
    (hwords : ∀ word ∈ words, IsWord word) :
  phrase? words text = some rest ↔ ∃ front, IsPhrase words front ∧ text = front ++ rest
  := by
  induction words generalizing text with
  | nil =>
    constructor
    · intro h
      contradiction
    · rintro ⟨front, h, -⟩
      contradiction
  | cons word words ih =>
    obtain ⟨hword, hwords⟩ := List.forall_mem_cons.mp hwords
    cases words with
    | nil =>
      rw [phrase?, keyword?_eq_some_iff]
      constructor
      · rintro ⟨front, hfold, htext⟩
        exact ⟨front, IsPhrase.last hfold, htext⟩
      · rintro ⟨front, h, htext⟩
        cases h with
        | last hfold => exact ⟨front, hfold, htext⟩
        | cons _ _ hrest => contradiction
    | cons next words =>
      rw [phrase?, Option.bind_eq_some_iff]
      constructor
      · rintro ⟨later, hlater, hrest⟩
        obtain ⟨front, gap, hfold, hgap, rfl, -⟩ := keyword?_bind_gap?_eq_some_iff.mp hlater
        obtain ⟨phrase, hphrase, rfl⟩ := (ih hwords).mp hrest
        use front ++ (gap ++ phrase), IsPhrase.cons hfold hgap hphrase
        simp only [List.append_assoc]
      · rintro ⟨front, h, rfl⟩
        cases h with
        | cons hfold hgap hphrase =>
          refine ⟨_, keyword?_bind_gap?_eq_some_iff.mpr ⟨_, _, hfold, hgap, ?_, ?_⟩,
            (ih hwords).mpr ⟨_, hphrase, rfl⟩⟩
          · simp only [List.append_assoc]
          · apply hphrase.isFlush_append hwords

theorem afterTable?_eq_some_iff {text rest : List Char} :
  afterTable? text = some rest ↔ ∃ front, IsPhrase opening front ∧ text = front ++ rest
  := by
  rw [afterTable?_eq]
  apply phrase?_eq_some_iff
  intro word hword
  simp only [opening, List.mem_cons, List.not_mem_nil, or_false] at hword
  rcases hword with rfl | rfl | rfl | rfl <;> exact ⟨List.cons_ne_nil _ _, isFlush_cons.mpr rfl⟩

theorem conditionText?_eq_some_iff {clause condition : List Char} :
  conditionText? clause = some condition ↔ Introduces clause condition
  := by
  have hunfold : conditionText? clause =
      ((keyword? ['W', 'H', 'E', 'R', 'E'] clause).bind gap?).bind fun condition =>
        if condition.isEmpty || condition.contains '\n' then none else some condition := by
    simp only [conditionText?, Option.bind_eq_bind, Option.bind_assoc]
  rw [hunfold, Option.bind_eq_some_iff]
  constructor
  · rintro ⟨found, hfound, hsome⟩
    obtain ⟨word, gap, hfold, hgap, rfl, hflush⟩ := keyword?_bind_gap?_eq_some_iff.mp hfound
    split at hsome
    · contradiction
    · next hcondition =>
      obtain rfl := Option.some.inj hsome
      rw [Bool.or_eq_true, not_or, List.isEmpty_iff, List.contains_iff_mem] at hcondition
      exact ⟨word, gap, hfold, hgap, rfl, hcondition.1, hflush, hcondition.2⟩
  · rintro ⟨word, gap, hfold, hgap, rfl, hne, hflush, hline⟩
    refine ⟨condition, keyword?_bind_gap?_eq_some_iff.mpr ⟨word, gap, hfold, hgap, rfl, hflush⟩, ?_⟩
    simp [hne, hline]

theorem Introduces.isFlush {clause condition : List Char} (h : Introduces clause condition) :
  IsFlush clause
  := by
  obtain ⟨word, gap, hfold, -, rfl, -⟩ := h
  apply isFlush_append_of_map_foldLetter (List.cons_ne_nil _ _) (isFlush_cons.mpr rfl) hfold

/-! ### Reading a condition -/

theorem parseSegment_eq_ok_iff {segment : List Char} {p : Predicate} :
  parseSegment segment = .ok p ↔ IsPredicate segment p
  := by
  rw [parseSegment, ← predicate?_eq_some_iff]
  cases predicate? segment <;> simp

theorem parseSegment_eq_error_iff {segment : List Char} {e : Error} :
  parseSegment segment = .error e ↔
    (∀ p, ¬ IsPredicate segment p) ∧ e = .unsupportedClause (String.ofList segment)
  := by
  simp only [parseSegment, ← predicate?_eq_some_iff]
  cases predicate? segment <;> simp [eq_comm]

/-- The predicate that a piece is, with the connective before it. -/
def parsePiece (piece : Connective × List Char) : Except Error (Connective × Predicate) :=
  (parseSegment (trimChars piece.2)).map (piece.1, ·)

theorem parseCondition_eq (text : List Char) :
  parseCondition text = do
    let first ← parseSegment (trimChars (pieces text).head)
    let rest ← (pieces text).tail.mapM parsePiece
    return ⟨first, rest⟩
  := by
  rw [parseCondition, cut]
  simp only [List.mapM_map]
  rfl

theorem parsePiece_eq_ok_iff {piece : Connective × List Char} {joined : Connective × Predicate} :
  parsePiece piece = .ok joined ↔ piece.1 = joined.1 ∧ IsPredicate (trimChars piece.2) joined.2
  := by
  rw [← parseSegment_eq_ok_iff, parsePiece]
  obtain ⟨joint, p⟩ := joined
  cases parseSegment (trimChars piece.2) <;> simp [Except.map]

/-- The connectives do not decide whether pieces are predicates. -/
theorem mapM_parsePiece_eq_error_iff (tail : List (Connective × List Char)) (e : Error) :
  tail.mapM parsePiece = .error e ↔
    (tail.map fun piece => trimChars piece.2).mapM parseSegment = .error e
  := by
  induction tail with
  | nil => simp [pure, Except.pure]
  | cons piece tail ih =>
    rw [List.mapM_cons, List.map_cons, List.mapM_cons, parsePiece]
    cases parseSegment (trimChars piece.2) with
    | error e' => simp [bind, Except.bind, Except.map]
    | ok p =>
      simp only [bind, Except.bind, Except.map]
      revert ih
      cases tail.mapM parsePiece <;>
        cases (tail.map fun piece => trimChars piece.2).mapM parseSegment <;>
        simp [pure, Except.pure]

theorem parseCondition_eq_ok_iff {text : List Char} {c : Condition} :
  parseCondition text = .ok c ↔ (pieces text).Denotes c
  := by
  have hdenotes : (pieces text).Denotes c ↔
      parseSegment (trimChars (pieces text).head) = .ok c.first
        ∧ (pieces text).tail.mapM parsePiece = .ok c.rest := by
    rw [Cut.Denotes, parseSegment_eq_ok_iff, mapM_eq_ok_iff]
    simp only [parsePiece_eq_ok_iff]
  rw [hdenotes, parseCondition_eq, bind_eq_ok_iff]
  constructor
  · rintro ⟨first, hfirst, hlater⟩
    obtain ⟨rest, hrest, hcondition⟩ := bind_eq_ok_iff.mp hlater
    obtain rfl := Except.ok.inj hcondition
    exact ⟨hfirst, hrest⟩
  · rintro ⟨hfirst, hrest⟩
    exact ⟨_, hfirst, bind_eq_ok_iff.mpr ⟨_, hrest, rfl⟩⟩

theorem parseCondition_eq_error_iff {text : List Char} {e : Error} :
  parseCondition text = .error e ↔
    ∃ segment, (pieces text).FailsAt segment ∧ e = .unsupportedClause (String.ofList segment)
  := by
  have hsegments : parseCondition text = .error e ↔
      (pieces text).segments.mapM parseSegment = .error e := by
    rw [parseCondition_eq, Cut.segments, List.map_cons, List.mapM_cons, List.map_map]
    cases parseSegment (trimChars (pieces text).head) with
    | error e' => simp [bind, Except.bind]
    | ok p =>
      have htail := mapM_parsePiece_eq_error_iff (pieces text).tail e
      simp only [bind, Except.bind, Function.comp_def]
      revert htail
      cases (pieces text).tail.mapM parsePiece <;>
        cases ((pieces text).tail.map fun piece => trimChars piece.2).mapM parseSegment <;>
        simp [pure, Except.pure]
  rw [hsegments, mapM_eq_error_iff]
  simp only [parseSegment_eq_ok_iff, parseSegment_eq_error_iff, Cut.FailsAt]
  constructor
  · rintro ⟨before, segment, after, heq, hbefore, hsegment, rfl⟩
    exact ⟨segment, ⟨before, after, heq, hbefore, hsegment⟩, rfl⟩
  · rintro ⟨segment, ⟨before, after, heq, hbefore, hsegment⟩, rfl⟩
    exact ⟨before, segment, after, heq, hbefore, hsegment, rfl⟩

/-! ### Reading a query -/

variable {query : String}

/-- The opening words alone are the statement without a condition. -/
theorem parse_of_isPhrase (h : IsPhrase opening (trimChars query.toList)) :
  parse query = .ok ⟨none⟩
  := by
  have htable : afterTable? (trimChars query.toList) = some [] :=
    afterTable?_eq_some_iff.mpr ⟨_, h, (List.append_nil _).symm⟩
  rw [parse, htable]
  rfl

/-- A query with a condition is what its condition is. -/
theorem parse_of_hasCondition {text : List Char}
    (h : HasCondition (trimChars query.toList) text) :
  parse query = (parseCondition text).map fun c => ⟨some c⟩
  := by
  obtain ⟨front, blanks, clause, hfront, hblanks, hclause, htext⟩ := h
  have htable := afterTable?_eq_some_iff.mpr ⟨front, hfront, htext⟩
  have hdrop : dropBlanks (blanks ++ clause) = clause := dropBlanks_append hblanks hclause.isFlush
  have hcondition := conditionText?_eq_some_iff.mpr hclause
  have hne : clause ≠ [] := by
    rintro rfl
    contradiction
  obtain ⟨c, clause, rfl⟩ := List.exists_cons_of_ne_nil hne
  rw [parse, htable]
  simp only [hdrop, hcondition]
  cases parseCondition text <;> rfl

/-- Nothing but blanks cannot stand at the end of a trimmed text. -/
theorem eq_nil_of_dropBlanks_eq_nil {front rest : List Char} (hrest : dropBlanks rest = [])
    (h : IsFlush (front ++ rest).reverse) :
  rest = []
  := by
  have hblank := List.dropWhile_eq_nil_iff.mp hrest
  induction rest using List.reverseRecOn with
  | nil => rfl
  | append_singleton rest c _ =>
    have hc : isBlank c = true := hblank c (List.mem_append_right _ List.mem_cons_self)
    rw [← List.append_assoc, List.reverse_append, List.reverse_singleton, List.singleton_append,
      isFlush_cons, hc] at h
    contradiction

/-- A query of another form is refused as it stands. -/
theorem parse_of_not (hphrase : ¬ IsPhrase opening (trimChars query.toList))
    (hcondition : ∀ text, ¬ HasCondition (trimChars query.toList) text) :
  parse query = .error (.unsupportedStatement query)
  := by
  rw [parse]
  split
  · rfl
  · next rest htable =>
    obtain ⟨front, hfront, htext⟩ := afterTable?_eq_some_iff.mp htable
    split
    · next hblank =>
      have hflush : IsFlush (front ++ rest).reverse := by
        rw [← htext]
        apply isFlush_reverse_trimChars
      rw [htext, eq_nil_of_dropBlanks_eq_nil hblank hflush, List.append_nil] at hphrase
      apply absurd hfront hphrase
    · next hclause =>
      split
      · rfl
      · next text hsome =>
        have hintroduces := conditionText?_eq_some_iff.mp hsome
        apply absurd _ (hcondition text)
        refine ⟨front, rest.takeWhile isBlank, dropBlanks rest, hfront, fun c hc =>
          List.mem_takeWhile_imp hc, hintroduces, ?_⟩
        rw [htext, dropBlanks, List.takeWhile_append_dropWhile]

/-- What a query is read as, it is read as by `parse`. -/
theorem IsReadAs.parse_eq {result : Except Error Statement} (h : IsReadAs query result) :
  parse query = result
  := by
  cases h with
  | all hphrase => apply parse_of_isPhrase hphrase
  | condition htext hcut hdenotes =>
    rw [parse_of_hasCondition htext]
    rw [← pieces_eq_iff.mpr hcut] at hdenotes
    rw [parseCondition_eq_ok_iff.mpr hdenotes]
    rfl
  | clause htext hcut hfails =>
    rw [parse_of_hasCondition htext]
    rw [← pieces_eq_iff.mpr hcut] at hfails
    rw [parseCondition_eq_error_iff.mpr ⟨_, hfails, rfl⟩]
    rfl
  | statement hphrase hcondition => apply parse_of_not hphrase hcondition

theorem isReadAs_parse (query : String) :
  IsReadAs query (parse query)
  := by
  by_cases hphrase : IsPhrase opening (trimChars query.toList)
  · rw [parse_of_isPhrase hphrase]
    apply IsReadAs.all hphrase
  · by_cases hcondition : ∃ text, HasCondition (trimChars query.toList) text
    · obtain ⟨text, htext⟩ := hcondition
      rw [parse_of_hasCondition htext]
      cases hparse : parseCondition text with
      | ok c =>
        apply IsReadAs.condition htext (isCut_pieces text)
        apply parseCondition_eq_ok_iff.mp hparse
      | error e =>
        obtain ⟨segment, hfails, rfl⟩ := parseCondition_eq_error_iff.mp hparse
        apply IsReadAs.clause htext (isCut_pieces text) hfails
    · rw [not_exists] at hcondition
      rw [parse_of_not hphrase hcondition]
      apply IsReadAs.statement hphrase hcondition

/-- A query is read as the statement that it is, or is refused for the reason that there is,
and in one way only.  Tasks are selected just by a query that is a statement; the answer to
any other one is its error. -/
theorem parse_eq_iff (query : String) :
  (∀ result, parse query = result ↔ IsReadAs query result)
    ∧ ∀ tasks : List Task,
      (∀ e, IsReadAs query (.error e) ↔ answer query tasks = .error e)
      ∧ ∀ rows, answer query tasks = .ok rows ↔
        ∃ s : Statement, IsReadAs query (.ok s) ∧ s.select tasks = rows
  := by
  have hparse : ∀ result, parse query = result ↔ IsReadAs query result := by
    intro result
    constructor
    · rintro rfl
      apply isReadAs_parse
    · apply IsReadAs.parse_eq
  use hparse
  intro tasks
  simp only [← hparse, answer]
  cases parse query <;> simp [Except.map]

end Agenda.Query
