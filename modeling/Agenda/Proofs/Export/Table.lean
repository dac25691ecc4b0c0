import Mathlib.Data.List.TakeWhile
import Mathlib.Tactic.Use
import Agenda.Export.Csv

/-!
# Tables as texts

What it is for a text to be a table of comma separated values.  Records end with line feeds and
consist of fields with commas between them.  A field is plain, or it stands between quotes: then
it may hold commas and line feeds, and a quote within it is written twice.

`readTable?` reads a table from the front.  Where a field ends it finds a comma or a line feed
and begins anew, and `readTable?_eq_some_iff` says that it reads exactly the tables.  Hence a
text is at most one table.
-/

namespace Agenda.Export

/-! ### Tables -/

/-- A character that may stand in a field without quotes. -/
def isPlain (c : Char) : Bool :=
  !(['"', ',', '\r', '\n'].contains c)

/-- The text is the field with its quotes doubled. -/
inductive IsQuoted : (text field : List Char) → Prop
  | nil : IsQuoted [] []
  | char {c : Char} {text field : List Char} :
    c ≠ '"' → IsQuoted text field → IsQuoted (c :: text) (c :: field)
  | quote {text field : List Char} :
    IsQuoted text field → IsQuoted ('"' :: '"' :: text) ('"' :: field)

/-- The text is the field, either as it is or between quotes. -/
inductive IsField : (text field : List Char) → Prop
  | plain {text : List Char} : (∀ c ∈ text, isPlain c = true) → IsField text text
  | quoted {text field : List Char} : IsQuoted text field → IsField ('"' :: (text ++ ['"'])) field

/-- The text consists of the fields with commas between them and a line feed at its end. -/
inductive IsRecord : (text : List Char) → (fields : List String) → Prop
  | last {text field : List Char} :
    IsField text field → IsRecord (text ++ ['\n']) [String.ofList field]
  | comma {text field later : List Char} {fields : List String} :
    IsField text field → IsRecord later fields →
    IsRecord (text ++ ',' :: later) (String.ofList field :: fields)

/-- The text consists of the records. -/
inductive IsTable : (text : List Char) → (records : List (List String)) → Prop
  | nil : IsTable [] []
  | cons {text later : List Char} {fields : List String} {records : List (List String)} :
    IsRecord text fields → IsTable later records → IsTable (text ++ later) (fields :: records)

/-! ### Fields -/

/-- The field up to the quote that closes it, and what follows that quote. -/
def readQuoted? : List Char → Option (List Char × List Char)
  | [] => none
  | '"' :: '"' :: rest => (readQuoted? rest).map fun found => ('"' :: found.1, found.2)
  | '"' :: rest => some ([], rest)
  | c :: rest => (readQuoted? rest).map fun found => (c :: found.1, found.2)

/-- The field at the front of the text and what follows it. -/
def readField? : List Char → Option (List Char × List Char)
  | '"' :: rest => readQuoted? rest
  | text => some (text.takeWhile isPlain, text.dropWhile isPlain)

variable {text field later : List Char}

theorem exists_isQuoted (h : readQuoted? text = some (field, later)) :
  ∃ front, IsQuoted front field ∧ text = front ++ '"' :: later
  := by
  fun_induction readQuoted? text generalizing field with
  | case1 => contradiction
  | case2 rest ih =>
    obtain ⟨⟨inner, _⟩, hinner, heq⟩ := Option.map_eq_some_iff.mp h
    obtain ⟨rfl, rfl⟩ := Prod.mk.inj heq
    obtain ⟨front, hfront, rfl⟩ := ih hinner
    exact ⟨_, IsQuoted.quote hfront, rfl⟩
  | case3 rest hrest =>
    obtain ⟨rfl, rfl⟩ := Prod.mk.inj (Option.some.inj h)
    exact ⟨[], IsQuoted.nil, rfl⟩
  | case4 c rest hquotes hquote ih =>
    obtain ⟨⟨inner, _⟩, hinner, heq⟩ := Option.map_eq_some_iff.mp h
    obtain ⟨rfl, rfl⟩ := Prod.mk.inj heq
    obtain ⟨front, hfront, rfl⟩ := ih hinner
    exact ⟨_, IsQuoted.char hquote hfront, rfl⟩

/-- A quoted field ends at the first quote that is not doubled. -/
theorem IsQuoted.readQuoted?_append (h : IsQuoted text field) (hlater : later.head? ≠ some '"') :
  readQuoted? (text ++ '"' :: later) = some (field, later)
  := by
  induction h with
  | nil =>
    cases later with
    | nil => rfl
    | cons c later =>
      have hc : c ≠ '"' := by simpa using hlater
      simp [readQuoted?, hc]
  | char hc _ ih => simp [readQuoted?, hc, ih]
  | quote _ ih => simp [readQuoted?, ih]

theorem exists_isField (h : readField? text = some (field, later)) :
  ∃ front, IsField front field ∧ text = front ++ later
  := by
  fun_cases readField? text with
  | case1 rest =>
    obtain ⟨front, hfront, rfl⟩ := exists_isQuoted h
    use '"' :: (front ++ ['"']), IsField.quoted hfront
    simp
  | case2 text hquote =>
    have hparts : (text.takeWhile isPlain, text.dropWhile isPlain) = (field, later) := by
      simpa [readField?, hquote] using h
    obtain ⟨rfl, rfl⟩ := Prod.mk.inj hparts
    use text.takeWhile isPlain
    refine ⟨IsField.plain fun c hc => List.mem_takeWhile_imp hc, ?_⟩
    rw [List.takeWhile_append_dropWhile]

/-- A field ends at a comma and at a line feed. -/
theorem IsField.readField?_append (h : IsField text field) {c : Char} (hc : c = ',' ∨ c = '\n') :
  readField? (text ++ c :: later) = some (field, c :: later)
  := by
  have hquote : c ≠ '"' := by
    rcases hc with rfl | rfl <;> decide
  have hplain : isPlain c = false := by
    rcases hc with rfl | rfl <;> rfl
  cases h with
  | plain htext =>
    have hfront : ∀ rest, text ++ c :: later ≠ '"' :: rest := by
      intro rest heq
      cases text with
      | nil => apply hquote (List.cons.inj heq).1
      | cons d text =>
        obtain ⟨rfl, -⟩ := List.cons.inj heq
        have hd := htext _ List.mem_cons_self
        contradiction
    rw [readField?.eq_def]
    split
    · next rest heq => apply absurd heq (hfront rest)
    · rw [List.takeWhile_append_of_pos htext, List.dropWhile_append_of_pos htext,
        List.takeWhile_cons_of_neg (by simp [hplain]),
        List.dropWhile_cons_of_neg (by simp [hplain]),
        List.append_nil]
  | quoted hquoted =>
    have hlater : (c :: later).head? ≠ some '"' := by
      simpa using hquote
    rw [List.cons_append, List.append_assoc]
    apply hquoted.readQuoted?_append hlater

theorem length_le_of_readField? (h : readField? text = some (field, later)) :
  later.length ≤ text.length
  := by
  obtain ⟨front, -, rfl⟩ := exists_isField h
  rw [List.length_append]
  apply Nat.le_add_left

/-! ### Records -/

/-- The fields of the record at the front of the text and what follows the record. -/
def readRecord? (text : List Char) : Option (List String × List Char) :=
  match h : readField? text with
  | some (field, ',' :: later) =>
    have : later.length < text.length := length_le_of_readField? h
    (readRecord? later).map fun found => (String.ofList field :: found.1, found.2)
  | some (field, '\n' :: later) => some ([String.ofList field], later)
  | _ => none
termination_by text.length

variable {fields : List String}

theorem exists_isRecord (h : readRecord? text = some (fields, later)) :
  ∃ front, IsRecord front fields ∧ text = front ++ later
  := by
  fun_induction readRecord? text generalizing fields with
  | case1 text field rest hfield _ ih =>
    obtain ⟨⟨inner, _⟩, hinner, heq⟩ := Option.map_eq_some_iff.mp h
    obtain ⟨rfl, rfl⟩ := Prod.mk.inj heq
    obtain ⟨record, hrecord, rfl⟩ := ih hinner
    obtain ⟨front, hfront, rfl⟩ := exists_isField hfield
    use front ++ ',' :: record, IsRecord.comma hfront hrecord
    simp
  | case2 text field rest hfield =>
    obtain ⟨rfl, rfl⟩ := Prod.mk.inj (Option.some.inj h)
    obtain ⟨front, hfront, rfl⟩ := exists_isField hfield
    use front ++ ['\n'], IsRecord.last hfront
    simp
  | case3 => contradiction

/-- A field that ends at a comma is followed by the rest of the record. -/
theorem readRecord?_of_comma (h : readField? text = some (field, ',' :: later)) :
  readRecord? text
    = (readRecord? later).map fun found => (String.ofList field :: found.1, found.2)
  := by
  rw [readRecord?]
  split <;> simp_all

/-- A field that ends at a line feed is the last one of the record. -/
theorem readRecord?_of_line (h : readField? text = some (field, '\n' :: later)) :
  readRecord? text = some ([String.ofList field], later)
  := by
  rw [readRecord?]
  split <;> simp_all

/-- A record ends where its last field does. -/
theorem IsRecord.readRecord?_append (h : IsRecord text fields) :
  readRecord? (text ++ later) = some (fields, later)
  := by
  induction h with
  | last hfield =>
    rw [List.append_assoc]
    apply readRecord?_of_line (hfield.readField?_append (.inr rfl))
  | comma hfield _ ih =>
    rw [List.append_assoc, List.cons_append,
      readRecord?_of_comma (hfield.readField?_append (.inl rfl)), ih]
    rfl

theorem IsRecord.ne_nil (h : IsRecord text fields) :
  text ≠ []
  := by
  cases h <;> simp

theorem length_lt_of_readRecord? (h : readRecord? text = some (fields, later)) :
  later.length < text.length
  := by
  obtain ⟨front, hfront, rfl⟩ := exists_isRecord h
  rw [List.length_append]
  apply Nat.lt_add_of_pos_left (List.length_pos_iff.mpr hfront.ne_nil)

/-! ### Reading a table -/

/-- The records of a table. -/
def readTable? (text : List Char) : Option (List (List String)) :=
  if text.isEmpty then some []
  else match h : readRecord? text with
    | none => none
    | some (fields, later) =>
      have : later.length < text.length := length_lt_of_readRecord? h
      (readTable? later).map (fields :: ·)
termination_by text.length

variable {records : List (List String)}

theorem isTable_of_readTable? (h : readTable? text = some records) :
  IsTable text records
  := by
  fun_induction readTable? text generalizing records with
  | case1 text hempty =>
    obtain rfl := List.isEmpty_iff.mp hempty
    obtain rfl := Option.some.inj h
    apply IsTable.nil
  | case2 => contradiction
  | case3 text hempty fields later hrecord _ ih =>
    obtain ⟨rest, hrest, rfl⟩ := Option.map_eq_some_iff.mp h
    obtain ⟨front, hfront, rfl⟩ := exists_isRecord hrecord
    apply IsTable.cons hfront (ih hrest)

theorem IsTable.readTable?_eq (h : IsTable text records) :
  readTable? text = some records
  := by
  induction h with
  | nil =>
    rw [readTable?]
    rfl
  | @cons text later fields records hrecord _ ih =>
    have hne : ¬ (text ++ later).isEmpty = true := by
      simp [hrecord.ne_nil]
    have hfound : readRecord? (text ++ later) = some (fields, later) :=
      hrecord.readRecord?_append
    rw [readTable?, if_neg hne]
    split
    · next hnone =>
      rw [hfound] at hnone
      contradiction
    · next hsome =>
      rw [hfound] at hsome
      obtain ⟨rfl, rfl⟩ := Prod.mk.inj (Option.some.inj hsome)
      rw [ih]
      rfl

/-- A text is read just when it is a table, and then as the records that it consists of. -/
theorem readTable?_eq_some_iff :
  readTable? text = some records ↔ IsTable text records
  := ⟨isTable_of_readTable?, IsTable.readTable?_eq⟩

end Agenda.Export
