import Agenda.Proofs.Query.Printing
import Agenda.Proofs.Query.Selection
import Agenda.Query.Answer
import Agenda.Task.Filter

/-!
# Filters as queries

Every part that a filter gives can be written as a clause, and the clauses joined by `AND`
are a query that selects the same rows as the filter, in the same order.  The texts of the
filter have to be such that they can be written in a query at all, and the searched text has
no percent sign, which a query would drop.
-/

namespace Agenda

open Query

/-! ### The query of a filter -/

/-- A part that a filter gives. -/
inductive Filter.Part where
  | search (text : String)
  | category (text : String)
  | completed (flag : Bool)

namespace Filter.Part

/-- The predicate that says the same as the part. -/
def predicate : Part → Predicate
  | search text => ⟨"title", .contains, Text.trim text⟩
  | category text => ⟨"category", .equals, text⟩
  | completed flag => ⟨"completed", .equals, (Task.Field.flag flag).display⟩

/-- The part as it is written in a query: the texts between quotes, the flag without them. -/
def clause : Part → String
  | completed flag => "completed = " ++ (Task.Field.flag flag).display
  | part => part.predicate.print

end Filter.Part

/-- The parts that the filter gives. -/
def Filter.parts (f : Filter) : List Filter.Part :=
  (f.search.map .search).toList ++ (f.category.map .category).toList ++
    match f.status with
    | .all => []
    | .open => [.completed false]
    | .done => [.completed true]

/-- The statement with a clause for every part of the filter, joined by `AND`. -/
def Filter.query (f : Filter) : String :=
  match f.parts with
  | [] => "SELECT * FROM tasks"
  | part :: parts =>
    "SELECT * FROM tasks WHERE " ++ " AND ".intercalate ((part :: parts).map (·.clause))

/-- The text can be written as a value in a query. -/
structure Query.IsWritable (value : String) : Prop where
  ne_empty : value ≠ ""
  line : '\n' ∉ value.toList
  isWhole : IsWhole value.toList

/-- The texts of the filter can be written in a query, and the trimmed search has no percent
sign. -/
structure Filter.IsWritable (f : Filter) : Prop where
  search : ∀ text ∈ f.search, Query.IsWritable (Text.trim text)
  percent : ∀ text ∈ f.search, '%' ∉ (Text.trim text).toList
  category : ∀ text ∈ f.category, Query.IsWritable text

/-! ### Reading the query -/

theorem Query.IsWritable.isExpressible {field value : String} {operator : Operator}
    (hvalue : Query.IsWritable value) (hne : field ≠ "")
    (hletters : ∀ c ∈ field.toList, Text.isFieldLetter c = true) :
  (Predicate.mk field operator value).IsExpressible
  where
  field_ne := hne
  field_letters := hletters
  value_ne := hvalue.ne_empty
  value_line := hvalue.line
  value_isWhole := hvalue.isWhole

/-- A flag is a clause although it has no quotes. -/
theorem Filter.Part.isClause_completed (flag : Bool) :
  IsClause (completed flag).clause.toList (completed flag).predicate
  := by
  -- the first letter of the flag stands in no separator
  have hbar : ∃ c rest, (Task.Field.flag flag).display.toList = c :: rest ∧ IsBar c := by
    cases flag
    · exact ⟨'f', _, rfl, rfl, fun joint => by cases joint <;> decide⟩
    · exact ⟨'t', _, rfl, rfl, fun joint => by cases joint <;> decide⟩
  have hlast : (Task.Field.flag flag).display.toList.reverse.head? = some 'e' := by
    cases flag <;> rfl
  have hoperand : IsOperand (Task.Field.flag flag).display.toList := by
    refine ⟨hbar, Text.isFlush_of_head? hlast rfl, by cases flag <;> decide, ?_⟩
    intro later
    apply isUnbroken_of_forall_not_isBlank
    have hword : (Task.Field.flag flag).display.toList.any Text.isBlank = false := by
      cases flag <;> rfl
    simpa using hword
  have htext : (completed flag).clause.toList = "completed".toList
      ++ (Operator.equals.print.toList ++ (Task.Field.flag flag).display.toList) := by
    cases flag <;> decide
  have hpredicate : (completed flag).predicate = ⟨"completed", .equals,
      String.ofList (unquote (Task.Field.flag flag).display.toList)⟩ := by
    cases flag <;> rfl
  rw [htext, hpredicate]
  apply hoperand.isClause (by decide)
  apply List.all_eq_true.mp rfl

namespace Filter

variable {f : Filter}

theorem search_mem_parts {text : String} :
  .search text ∈ f.parts ↔ text ∈ f.search
  := by
  cases hstatus : f.status <;> simp [parts, hstatus]

theorem category_mem_parts {text : String} :
  .category text ∈ f.parts ↔ text ∈ f.category
  := by
  cases hstatus : f.status <;> simp [parts, hstatus]

/-- Every part of a filter that can be written is a clause for its predicate. -/
theorem IsWritable.isClause (h : f.IsWritable) {part : Part} (hpart : part ∈ f.parts) :
  IsClause part.clause.toList part.predicate
  := by
  have hquoted : ∀ {p : Predicate}, p.IsExpressible → IsClause p.print.toList p := by
    intro p hp
    rw [p.toList_print]
    apply hp.isClause
  cases part with
  | search text =>
    apply hquoted
    apply (h.search text (search_mem_parts.mp hpart)).isExpressible (by decide)
    apply List.all_eq_true.mp rfl
  | category text =>
    apply hquoted
    apply (h.category text (category_mem_parts.mp hpart)).isExpressible (by decide)
    apply List.all_eq_true.mp rfl
  | completed flag => apply Part.isClause_completed

end Filter

/-- The selection of the tasks that satisfy all predicates. -/
def Query.Statement.all : List Predicate → Statement
  | [] => ⟨none⟩
  | p :: ps => ⟨some ⟨p, ps.map (.and, ·)⟩⟩

/-- Clauses joined by `AND` spell the conjunction of their predicates. -/
theorem Filter.Part.spells_intercalate {part : Part} {parts : List Part}
    (h : ∀ q ∈ part :: parts, IsClause q.clause.toList q.predicate) :
  Spells (" AND ".intercalate ((part :: parts).map (·.clause))).toList
    ⟨part.predicate, (parts.map (·.predicate)).map (.and, ·)⟩
  := by
  induction parts generalizing part with
  | nil =>
    rw [List.map_singleton, String.intercalate_singleton]
    apply Spells.one
    apply h part List.mem_cons_self
  | cons next parts ih =>
    obtain ⟨hpart, hparts⟩ := List.forall_mem_cons.mp h
    have hjoined := Spells.joined .and hpart (ih hparts)
    rw [← Connective.toList_print] at hjoined
    simp only [List.map_cons, String.intercalate_cons_cons, String.toList_append,
      List.append_assoc]
    apply hjoined

/-- The query of a filter is read as the conjunction of its predicates. -/
theorem Filter.IsWritable.parse_query {f : Filter} (h : f.IsWritable) :
  parse f.query = .ok (.all (f.parts.map (·.predicate)))
  := by
  rw [query]
  split
  · next hparts =>
    rw [hparts]
    rfl
  · next part parts hparts =>
    have hclauses : ∀ q ∈ part :: parts, IsClause q.clause.toList q.predicate := by
      intro q hq
      apply h.isClause
      rw [hparts]
      apply hq
    rw [hparts]
    apply (Part.spells_intercalate hclauses).parse_eq
    rw [String.toList_append]

/-! ### The rows of a conjunction -/

/-- Joining by `AND` keeps the rows whose tasks satisfy the predicate as well. -/
theorem Query.Connective.join_and_rows (keeps : Task → Bool) (p : Predicate)
    (tasks : List Task) :
  Connective.and.join ((tasks.zipIdx.filter fun row => keeps row.1).map (·.2)) (p.rows tasks)
    = (tasks.zipIdx.filter fun row => keeps row.1 && p.holds row.1).map (·.2)
  := by
  rw [join, List.filter_map, List.filter_filter]
  congr 1
  apply List.filter_congr
  rintro ⟨t, i⟩ hrow
  have hholds : (p.rows tasks).contains i = p.holds t := by
    rw [Bool.eq_iff_iff, List.contains_iff_mem, Predicate.mem_rows,
      List.mem_zipIdx_iff_getElem?.mp hrow]
    rfl
  rw [Function.comp_apply, hholds, Bool.and_comm]

/-- The rows of a conjunction are those of the tasks that satisfy all predicates. -/
theorem Query.Statement.rows_all (ps : List Predicate) (tasks : List Task) :
  (Statement.all ps).rows tasks
    = (tasks.zipIdx.filter fun row => ps.all (·.holds row.1)).map (·.2)
  := by
  cases ps with
  | nil => simp [all, rows, List.zipIdx_map_snd, List.range_eq_range']
  | cons p ps =>
    -- the tasks kept so far are those that satisfy the predicates before the rest
    have hjoin : ∀ keeps : Task → Bool, (ps.map (Connective.and, ·)).foldl
        (fun selection entry => entry.1.join selection (entry.2.rows tasks))
        ((tasks.zipIdx.filter fun row => keeps row.1).map (·.2))
        = (tasks.zipIdx.filter fun row => keeps row.1 && ps.all (·.holds row.1)).map (·.2) := by
      induction ps with
      | nil => simp
      | cons q ps ih =>
        intro keeps
        have hlater := ih fun t => keeps t && q.holds t
        rw [← Connective.join_and_rows] at hlater
        simp only [Bool.and_assoc] at hlater
        apply hlater
    apply hjoin p.holds

/-- The rows that are kept hold the tasks that are kept. -/
theorem filterMap_rows (keeps : Task → Bool) (tasks : List Task) :
  ((tasks.zipIdx.filter fun row => keeps row.1).map (·.2)).filterMap (tasks[·]?)
    = tasks.filter keeps
  := by
  have htask : ∀ row ∈ tasks.zipIdx.filter fun row => keeps row.1, tasks[row.2]? = some row.1 := by
    intro row hrow
    apply List.mem_zipIdx_iff_getElem?.mp (List.mem_of_mem_filter hrow)
  calc ((tasks.zipIdx.filter fun row => keeps row.1).map (·.2)).filterMap (tasks[·]?)
      = (tasks.zipIdx.filter fun row => keeps row.1).filterMap (some ·.1) := by
        rw [List.filterMap_map]
        apply List.filterMap_congr htask
    _ = (tasks.zipIdx.map (·.1)).filter keeps := by
        rw [List.filterMap_eq_map', List.filter_map]
        rfl
    _ = tasks.filter keeps := by
        rw [List.zipIdx_map_fst]

/-! ### Filtering and querying -/

/-- Nothing is dropped from a searched text without percent signs. -/
theorem Query.needle_eq_lower {value : String} (h : '%' ∉ value.toList) :
  needle value = Text.lower value
  := by
  have hkept : value.toList.filter (· != '%') = value.toList := by
    apply List.filter_eq_self.mpr
    rintro c hc
    apply bne_iff_ne.mpr
    rintro rfl
    apply h hc
  rw [needle, hkept, String.ofList_toList]

namespace Filter

variable {f : Filter}

theorem Part.holds_search {text : String} (h : '%' ∉ (Text.trim text).toList) (t : Task) :
  (search text).predicate.holds t = finds text t
  := by
  rw [predicate, Predicate.holds, needle_eq_lower h]
  rfl

theorem Part.holds_completed (flag : Bool) (t : Task) :
  (completed flag).predicate.holds t = (t.completed == flag)
  := by
  have hholds : (completed flag).predicate.holds t
      = ((Task.Field.flag t.completed).display == (Task.Field.flag flag).display) := rfl
  rw [hholds]
  cases t.completed <;> cases flag <;> rfl

/-- A filter keeps the tasks that satisfy the predicates of all its parts. -/
theorem IsWritable.keeps_eq (h : f.IsWritable) (t : Task) :
  f.keeps t = f.parts.all (·.predicate.holds t)
  := by
  obtain ⟨search, category, status⟩ := f
  have hsearch : search.all (finds · t)
      = (search.map Part.search).toList.all (·.predicate.holds t) := by
    cases search with
    | none => rfl
    | some text => simp [Part.holds_search (h.percent text rfl)]
  have hcategory : category.all (t.category == ·)
      = (category.map Part.category).toList.all (·.predicate.holds t) := by
    cases category with
    | none => rfl
    | some text => exact (Bool.and_true _).symm
  rw [keeps, hsearch, hcategory, parts, List.all_append, List.all_append]
  cases status <;> simp [Status.admits, Part.holds_completed]

/-- A filter and its query select the same rows in the same order. -/
theorem answer_query (h : f.IsWritable) (tasks : List Task) :
  (parse f.query).map (·.rows tasks) = .ok (f.rows tasks)
    ∧ answer f.query tasks = .ok (tasks.filter f.keeps)
  := by
  have hrows : (Statement.all (f.parts.map (·.predicate))).rows tasks = f.rows tasks := by
    have hkeeps : f.keeps = fun t => f.parts.all (·.predicate.holds t) := funext h.keeps_eq
    simp only [Statement.rows_all, List.all_map, rows, hkeeps, Function.comp_def]
  rw [answer, h.parse_query]
  constructor
  · rw [Except.map, hrows]
  · rw [Except.map, Statement.select, hrows, rows, filterMap_rows]

/-- A filter whose texts have quotes and keywords at their ends. -/
def quotedFilter : Filter where
  search := some "\t'\"and "
  category := some " or"
  status := .done

/-- A task that is kept by `quotedFilter` when it is completed. -/
def quotedTask (completed : Bool) : Task where
  id := "a"
  title := "'\"AND OR\"'"
  category := " or"
  due := ""
  createdAt := ""
  completed := completed
  completedAt := none

theorem answer_query_quotedFilter :
  quotedFilter.IsWritable ∧
    answer quotedFilter.query [quotedTask false, quotedTask true] = .ok [quotedTask true]
  := by
  have hwritable : quotedFilter.IsWritable := by
    constructor
    · rintro text ⟨⟩
      constructor <;> decide
    · rintro text ⟨⟩
      decide
    · rintro text ⟨⟩
      constructor <;> decide
  use hwritable
  apply (answer_query hwritable _).2

end Filter

end Agenda
