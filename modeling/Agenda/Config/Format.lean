import Agenda.Config.Basic
import Agenda.Yaml.Document
import Agenda.Yaml.Written

/-!
# Settings as YAML

Settings are written as a mapping with the files for exports in a mapping of their own.  When
they are read, what is missing has its default.  Unknown entries are passed over, and known
ones may not be repeated.  Any scalar is a text, but a number has to be plain.
-/

namespace Agenda.Config

open Yaml (Document Node Scalar)

/-! ### Writing -/

/-- The settings as a document. -/
def write (c : Config) : String :=
  String.ofList <|
    Yaml.writeEntry 0 "storage_key" c.storageKey ++
    Yaml.writeEntry 0 "default_category" c.defaultCategory ++
    Yaml.writeEntry 0 "default_query" c.defaultQuery ++
    ("activity_days: " ++ toString c.activityDays ++ "\nexport:\n").toList ++
    Yaml.writeEntry 1 "csv_file" c.csvFile ++
    Yaml.writeEntry 1 "report_file" c.reportFile

/-! ### Reading numbers -/

/-- The digits behind the mark that tells their base. -/
def markedDigits? : List Char → Option (Nat × List Char)
  | '0' :: 'x' :: digits => some (16, digits)
  | '0' :: 'o' :: digits => some (8, digits)
  | '0' :: 'b' :: digits => some (2, digits)
  | _ => none

/-- Several decimal digits of which the first is zero; they are no number. -/
def isPadded : List Char → Bool
  | '0' :: c :: rest => (c :: rest).all Char.isDigit
  | _ => false

/-- The natural number that is written with an optional plus sign, in decimal digits or with
the mark of another base. -/
def natural? (s : List Char) : Option Nat :=
  let digits := if s.head? = some '+' then s.drop 1 else s
  ((markedDigits? digits).bind fun (base, marked) => Yaml.number? base marked).or
    (if isPadded digits then none else Yaml.number? 10 digits)

/-- Numbers are less than this. -/
def numberBound : Nat := Nat.pow 2 32

/-- The type of numbers, as a tag names it. -/
def numberTag : Yaml.TagName :=
  Yaml.Reader.ascii "tag:yaml.org,2002:int"

/-- The scalar may be a number: it is plain, or a literal block with the type of numbers. -/
def mayBeNumber (s : Scalar) (tag : Option Yaml.TagName) : Bool :=
  match s.style with
  | .plain => true
  | .literal => tag == some numberTag
  | _ => false

/-! ### Reading values -/

/-- The text that the node is. -/
def text? (d : Document) (n : Node) : Option String := do
  match ← d.resolve n with
  | .scalar s _ => return s.text
  | _ => none

/-- The number that the node is. -/
def number? (d : Document) (n : Node) : Option Nat := do
  match ← d.resolve n with
  | .scalar s tag =>
    guard (mayBeNumber s tag)
    (natural? s.text.toList).filter (· < numberBound)
  | _ => none

/-- The entries of the mapping that the node is.  An empty plain scalar has none. -/
def entries? (d : Document) (n : Node) : Option (List (String × Node)) := do
  match ← d.resolve n with
  | .mapping entries => entries.mapM fun (key, value) => return (← text? d key, value)
  | .scalar s _ =>
    guard (s = ⟨"", .plain⟩)
    return []
  | _ => none

/-- The value with the given key, read as told, or its default if there is none. -/
def setting? {α : Type} (read? : Node → Option α) (default : α) (entries : List (String × Node))
    (key : String) : Option α :=
  match entries.filter (·.1 == key) with
  | [] => some default
  | [(_, value)] => read? value
  | _ => none

/-- The settings that the entries describe. -/
def ofEntries? (d : Document) (entries : List (String × Node)) : Option Config := do
  let defaults : Config := {}
  let text := setting? (text? d)
  let storageKey ← text defaults.storageKey entries "storage_key"
  let defaultCategory ← text defaults.defaultCategory entries "default_category"
  let defaultQuery ← text defaults.defaultQuery entries "default_query"
  let activityDays ← setting? (number? d) defaults.activityDays entries "activity_days"
  let files ← setting? (entries? d) [] entries "export"
  let csvFile ← text defaults.csvFile files "csv_file"
  let reportFile ← text defaults.reportFile files "report_file"
  return { storageKey, defaultCategory, defaultQuery, activityDays, csvFile, reportFile }

/-- The settings that the text of a document describes. -/
def read? (document : String) : Option Config := do
  let d ← Document.ofChars? document.toList
  match d.root with
  | none => return {}
  | some n => ofEntries? d (← entries? d n)

end Agenda.Config
