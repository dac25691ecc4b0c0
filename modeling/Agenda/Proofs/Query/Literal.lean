import Agenda.Proofs.Query.Filtering

/-!
# Literals

A literal is a text between two quotes of one kind.  When the text has no quotes itself and can
stand in a clause, a query that compares a field with the literal selects just the tasks whose
field shows the text.  There is one exception.  Reading drops a quote only where a character
remains, so the literal of the empty text is read as its closing quote, and no query of this
form selects the tasks whose field shows nothing.
-/

namespace Agenda.Query

open Text

/-! ### Texts between quotes -/

/-- The kinds of quotes. -/
inductive Quote where
  | single
  | double
deriving DecidableEq, Repr

namespace Quote

/-- The quote itself. -/
def mark : Quote → Char
  | single => '\''
  | double => '"'

/-- The text between two quotes. -/
def literal (q : Quote) (text : String) : String :=
  String.ofList (q.mark :: (text.toList ++ [q.mark]))

/-- The text with which a field is compared when it is compared with the literal. -/
def denoted (q : Quote) (text : String) : String :=
  if text.isEmpty then q.mark.toString else text

end Quote

/-- The text can stand between quotes in a clause: it has no quotes, is on one line and holds no
separator. -/
structure IsLiteral (text : String) : Prop where
  quote : ∀ q : Quote, q.mark ∉ text.toList
  line : '\n' ∉ text.toList
  isWhole : IsWhole text.toList

/-- The query for the tasks whose field equals the literal. -/
def literalQuery (field : String) (q : Quote) (text : String) : String :=
  "SELECT * FROM tasks WHERE " ++ (field ++ (" = " ++ q.literal text))

/-! ### Reading a literal -/

theorem dropLeading_of_ne {c quote : Char} (h : c ≠ quote) (text : List Char) :
  dropLeading quote (c :: text) = c :: text
  := by
  cases text with
  | nil => rfl
  | cons d text => rw [dropLeading, if_neg h]

theorem dropLeading_of_notMem {quote : Char} {text : List Char} (h : quote ∉ text) :
  dropLeading quote text = text
  := by
  cases text with
  | nil => rfl
  | cons c text =>
    apply dropLeading_of_ne
    rintro rfl
    apply h List.mem_cons_self

theorem dropTrailing_of_notMem {quote : Char} {text : List Char} (h : quote ∉ text) :
  dropTrailing quote text = text
  := by
  rw [dropTrailing, dropLeading_of_notMem (List.mem_reverse.not.mpr h), List.reverse_reverse]

namespace Quote

theorem isBar_mark (q : Quote) :
  IsBar q.mark
  := by
  cases q with
  | single => apply isBar_quote
  | double =>
    constructor
    · decide
    · intro joint
      cases joint <;> decide

theorem toList_literal (q : Quote) (text : String) :
  (q.literal text).toList = q.mark :: (text.toList ++ [q.mark])
  := String.toList_ofList

/-- Both quotes around a text are dropped. -/
theorem unquote_literal {text : List Char} (h : ∀ q : Quote, q.mark ∉ text) (hne : text ≠ [])
    (q : Quote) :
  unquote (q.mark :: (text ++ [q.mark])) = text
  := by
  have hsingle : '\'' ∉ text := h single
  have hdouble : '"' ∉ text := h double
  cases q with
  | single =>
    have hfront : dropLeading '\'' ('\'' :: (text ++ ['\''])) = text ++ ['\''] :=
      dropLeading_cons (by simp)
    have hother : '"' ∉ text ++ ['\''] := by
      simp [hdouble]
    rw [unquote, mark, hfront, dropLeading_of_notMem hother, dropTrailing_of_notMem hother,
      dropTrailing_append hne]
  | double =>
    have hfront : dropLeading '"' ('"' :: (text ++ ['"'])) = text ++ ['"'] :=
      dropLeading_cons (by simp)
    rw [unquote, mark, dropLeading_of_ne (by decide), hfront, dropTrailing_append hne,
      dropTrailing_of_notMem hsingle]

/-- A literal is read as the text that it denotes. -/
theorem unquote_toList_literal {text : String} (h : IsLiteral text) (q : Quote) :
  String.ofList (unquote (q.literal text).toList) = q.denoted text
  := by
  rw [toList_literal, denoted]
  split
  · next hempty =>
    obtain rfl := String.isEmpty_iff.mp hempty
    cases q <;> rfl
  · next hempty =>
    have hne : text.toList ≠ [] := by
      intro hnil
      apply hempty (String.isEmpty_iff.mpr (String.toList_eq_nil_iff.mp hnil))
    rw [unquote_literal h.quote hne, String.ofList_toList]

end Quote

/-- No separator crosses the quotes of a literal. -/
theorem IsLiteral.isOperand {text : String} (h : IsLiteral text) (q : Quote) :
  IsOperand (q.literal text).toList
  := by
  have hmark : ∀ later, IsUnbroken [q.mark] later := by
    intro later
    apply isUnbroken_of_forall_not_isBlank
    intro c hc
    obtain rfl := List.mem_singleton.mp hc
    apply q.isBar_mark.1
  rw [q.toList_literal]
  constructor
  · exact ⟨_, _, rfl, q.isBar_mark⟩
  · rw [List.reverse_cons, List.reverse_append]
    apply isFlush_cons.mpr q.isBar_mark.1
  · have hline : '\n' ≠ q.mark := by
      cases q <;> decide
    simp [hline, h.line]
  · intro later
    rw [← List.singleton_append, isUnbroken_append, isUnbroken_append]
    exact ⟨hmark _, q.isBar_mark.isUnbroken _ h.isWhole, hmark later⟩

/-! ### Selecting by a literal -/

/-- A statement with a single predicate selects the tasks that satisfy it, in their order. -/
theorem Predicate.select_eq (p : Predicate) (tasks : List Task) :
  Statement.select ⟨some ⟨p, []⟩⟩ tasks = tasks.filter p.holds
  := filterMap_rows p.holds tasks

section

variable {field text : String} (hne : field ≠ "")
  (hletters : ∀ c ∈ field.toList, isFieldLetter c = true) (htext : IsLiteral text) (q : Quote)
  (tasks : List Task)

include hne hletters htext

theorem answer_literalQuery :
  answer (literalQuery field q text) tasks
    = .ok (tasks.filter fun t => (t.field field).display == q.denoted text)
  := by
  have hclause := (htext.isOperand q).isClause hne hletters .equals
  rw [q.unquote_toList_literal htext] at hclause
  have hcomparison : (field ++ (" = " ++ q.literal text)).toList
      = field.toList ++ (Operator.equals.print.toList ++ (q.literal text).toList) := by
    rw [String.toList_append, String.toList_append]
    rfl
  have hquery : (literalQuery field q text).toList = "SELECT * FROM tasks WHERE ".toList
      ++ (field.toList ++ (Operator.equals.print.toList ++ (q.literal text).toList)) :=
    String.toList_append.trans (congrArg _ hcomparison)
  rw [answer, (Spells.one hclause).parse_eq hquery, Except.map, Predicate.select_eq]
  rfl

/-- A query that compares a field with a literal succeeds.  It selects the tasks whose field shows
the text of the literal, in their order, if that text is not empty.  If it is empty, the query
selects the tasks whose field shows the closing quote, and so none whose field shows nothing. -/
theorem answer_literal :
  (text ≠ "" → answer (literalQuery field q text) tasks
      = .ok (tasks.filter fun t => (t.field field).display == text))
    ∧ (text = "" → answer (literalQuery field q text) tasks
      = .ok (tasks.filter fun t => (t.field field).display == q.mark.toString))
  := by
  rw [answer_literalQuery hne hletters htext, Quote.denoted]
  constructor
  · intro hnonempty
    rw [if_neg (String.isEmpty_iff.not.mpr hnonempty)]
  · rintro rfl
    rfl

end

/-- A text that begins and ends with keywords and blanks. -/
def keywordText : String :=
  "AND = like\tor"

/-- Tasks whose titles are that text, with a quote after it in one of them. -/
def keywordTasks : List Task :=
  [⟨"a", keywordText, "", "", "", false, none⟩, ⟨"b", keywordText ++ "'", "", "", "", false, none⟩,
    ⟨"c", keywordText, "", "", "", true, some ""⟩]

theorem answer_literal_keywordText :
  IsLiteral keywordText ∧ answer (literalQuery "title" .double keywordText) keywordTasks
    = .ok [⟨"a", keywordText, "", "", "", false, none⟩, ⟨"c", keywordText, "", "", "", true, some ""⟩]
  := by
  have hliteral : IsLiteral keywordText := by
    constructor
    · intro q
      cases q <;> decide
    · decide
    · decide
  use hliteral
  apply (answer_literal (by decide) (List.all_eq_true.mp rfl) hliteral .double keywordTasks).1
  decide

/-- The tasks without a due date are not those that the literal of the empty text selects, nor are
the tasks that were never completed. -/
theorem not_selected_by_empty_literal :
  let t : Task := ⟨"a", "", "", "", "", false, none⟩
  IsLiteral "" ∧ (t.field "due").display = "" ∧ (t.field "completedAt").display = ""
    ∧ answer (literalQuery "due" .single "") [t] = .ok []
    ∧ answer (literalQuery "completedAt" .double "") [t] = .ok []
  := by
  have hliteral : IsLiteral "" := ⟨fun _ => List.not_mem_nil, List.not_mem_nil, by decide⟩
  refine ⟨hliteral, rfl, rfl, ?_, ?_⟩
  · rw [answer_literalQuery (by decide) (List.all_eq_true.mp rfl) hliteral]
    rfl
  · rw [answer_literalQuery (by decide) (List.all_eq_true.mp rfl) hliteral]
    rfl

end Agenda.Query
