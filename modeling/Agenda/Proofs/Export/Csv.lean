import Agenda.Proofs.Export.Table

/-!
# The tasks as a table

The text that `csv` writes is the table with a header and with a record of seven fields for
every task, whatever quotes, commas and line breaks the fields hold, and it is no other table.
Two lists of tasks have the same text when they differ in nothing but in whether a completion
time is absent or empty.
-/

namespace Agenda

/-- The task with an empty completion time in place of none. -/
def Task.withTime (t : Task) : Task :=
  { t with completedAt := some (t.completedAt.getD "") }

namespace Export

/-- A header with the names of the fields, and the fields of every task. -/
def records (tasks : List Task) : List (List String) :=
  ["id", "title", "category", "due", "createdAt", "completed", "completedAt"] ::
    tasks.map fun t =>
      [t.id, t.title, t.category, t.due, t.createdAt, if t.completed then "true" else "",
        t.completedAt.getD ""]

/-! ### Fields and records -/

theorem isQuoted_doubleQuotes (s : List Char) :
  IsQuoted (doubleQuotes s) s
  := by
  induction s with
  | nil => apply IsQuoted.nil
  | cons c s ih =>
    rw [doubleQuotes]
    split
    · next hc =>
      rw [hc]
      apply IsQuoted.quote ih
    · next hc => apply IsQuoted.char hc ih

theorem isField_csvField (s : String) :
  IsField (csvField s) s.toList
  := IsField.quoted (isQuoted_doubleQuotes s.toList)

/-- Fields with commas between them and a line feed at the end are a record. -/
theorem isRecord_intercalate {text : String → List Char} {fields : List String}
    (hne : fields ≠ []) (h : ∀ s ∈ fields, IsField (text s) s.toList) :
  IsRecord ([','].intercalate (fields.map text) ++ ['\n']) fields
  := by
  induction fields with
  | nil => contradiction
  | cons s fields ih =>
    obtain ⟨hs, hfields⟩ := List.forall_mem_cons.mp h
    cases fields with
    | nil =>
      have hlast := IsRecord.last hs
      rw [String.ofList_toList] at hlast
      rw [List.map_singleton, List.intercalate_singleton]
      exact hlast
    | cons next fields =>
      have hcomma := IsRecord.comma hs (ih (List.cons_ne_nil _ _) hfields)
      rw [String.ofList_toList] at hcomma
      rw [List.map_cons, List.map_cons, List.intercalate_cons_cons]
      simpa using hcomma

theorem isRecord_csvRecord (t : Task) :
  IsRecord (csvRecord (csvFields t)) (csvFields t)
  := by
  apply isRecord_intercalate (List.cons_ne_nil _ _)
  intro s _
  apply isField_csvField

/-- The header needs no quotes. -/
theorem isRecord_keys :
  IsRecord ([','].intercalate (Task.keys.map String.toList) ++ ['\n']) Task.keys
  := by
  have hplain : ∀ key ∈ Task.keys, ∀ c ∈ key.toList, isPlain c = true := by
    have hall : Task.keys.all (·.toList.all isPlain) = true := by
      decide
    simpa using hall
  apply isRecord_intercalate (List.cons_ne_nil _ _)
  intro key hkey
  apply IsField.plain (hplain key hkey)

/-! ### The table -/

theorem isTable_csvRecords (tasks : List Task) :
  IsTable (tasks.map fun t => csvRecord (csvFields t)).flatten (tasks.map csvFields)
  := by
  induction tasks with
  | nil => apply IsTable.nil
  | cons t tasks ih => apply IsTable.cons (isRecord_csvRecord t) ih

theorem isTable_csv (tasks : List Task) :
  IsTable (csv tasks).toList (records tasks)
  := by
  have htable := IsTable.cons isRecord_keys (isTable_csvRecords tasks)
  rw [List.append_assoc] at htable
  rw [csv, String.toList_ofList]
  apply htable

theorem readTable?_csv (tasks : List Task) :
  readTable? (csv tasks).toList = some (records tasks)
  := (isTable_csv tasks).readTable?_eq

/-! ### What is lost -/

/-- Only the absence of a completion time is lost in a record. -/
theorem csvFields_eq_iff {t u : Task} :
  csvFields t = csvFields u ↔ t.withTime = u.withTime
  := by
  obtain ⟨_, _, _, _, _, completed, _⟩ := t
  obtain ⟨_, _, _, _, _, completed', _⟩ := u
  cases completed <;> cases completed' <;> simp [csvFields, Task.withTime]

theorem map_csvFields_eq_iff {tasks others : List Task} :
  tasks.map csvFields = others.map csvFields
    ↔ tasks.map Task.withTime = others.map Task.withTime
  := by
  induction tasks generalizing others with
  | nil => simp [eq_comm]
  | cons t tasks ih =>
    cases others with
    | nil => simp
    | cons u others =>
      rw [List.map_cons, List.map_cons, List.map_cons, List.map_cons, List.cons.injEq,
        List.cons.injEq, csvFields_eq_iff, ih]

/-- The text determines the records. -/
theorem csv_eq_iff {tasks others : List Task} :
  csv tasks = csv others ↔ tasks.map csvFields = others.map csvFields
  := by
  constructor
  · intro h
    have hrecords := readTable?_csv tasks
    rw [h, readTable?_csv others] at hrecords
    exact (List.cons.inj (Option.some.inj hrecords)).2.symm
  · intro h
    have htexts : (tasks.map csvFields).map csvRecord = (others.map csvFields).map csvRecord :=
      congrArg _ h
    rw [List.map_map, List.map_map] at htexts
    rw [csv, csv]
    apply congrArg
    apply congrArg (_ ++ '\n' :: List.flatten ·) htexts

/-- The tasks are read back from their text, and they cannot be read in another way.  Hence
tasks with the same text are the same, up to completion times that are absent or empty. -/
theorem csv_lossless (tasks : List Task) :
  readTable? (csv tasks).toList = some (records tasks)
    ∧ (∀ others, IsTable (csv tasks).toList others ↔ others = records tasks)
    ∧ ∀ others : List Task,
      csv tasks = csv others ↔ tasks.map Task.withTime = others.map Task.withTime
  := by
  refine ⟨readTable?_csv tasks, ?_, ?_⟩
  · intro others
    rw [← readTable?_eq_some_iff, readTable?_csv, Option.some.injEq, eq_comm]
  · intro others
    rw [csv_eq_iff, map_csvFields_eq_iff]

end Export

end Agenda
