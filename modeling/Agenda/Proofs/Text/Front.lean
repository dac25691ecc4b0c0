import Mathlib.Data.List.TakeWhile
import Mathlib.Tactic.Use
import Agenda.Text.Blank
import Agenda.Text.Keyword

/-!
# The front of a text

What it means that gaps and keywords are recognised at the front of a text, and that
trimming leaves a text as it is.
-/

namespace Agenda.Text

/-! ### Blanks -/

/-- A non-empty text of blanks. -/
structure IsGap (gap : List Char) : Prop where
  ne_nil : gap ≠ []
  isBlank : ∀ c ∈ gap, isBlank c = true

theorem isGap_singleton {c : Char} (h : isBlank c = true) :
  IsGap [c]
  := by
  constructor
  · apply List.cons_ne_nil
  · intro d hd
    obtain rfl := List.mem_singleton.mp hd
    apply h

/-- A text that does not begin with a blank. -/
def IsFlush (text : List Char) : Prop :=
  ∀ c ∈ text.head?, isBlank c = false

theorem isFlush_of_head? {c : Char} {text : List Char} (h : text.head? = some c)
    (hc : isBlank c = false) :
  IsFlush text
  := by
  intro d hd
  rw [h] at hd
  obtain rfl := Option.some.inj hd
  exact hc

theorem isFlush_cons {c : Char} {text : List Char} :
  IsFlush (c :: text) ↔ isBlank c = false
  := by
  simp [IsFlush]

theorem isFlush_append {text : List Char} (hne : text ≠ []) (h : IsFlush text)
    (later : List Char) :
  IsFlush (text ++ later)
  := by
  obtain ⟨c, text, rfl⟩ := List.exists_cons_of_ne_nil hne
  apply isFlush_cons.mpr (isFlush_cons.mp h)

theorem IsFlush.of_isPrefix {front text : List Char} (h : IsFlush text) (hfront : front <+: text) :
  IsFlush front
  := by
  obtain ⟨rest, rfl⟩ := hfront
  cases front with
  | nil => simp [IsFlush]
  | cons c front => apply isFlush_cons.mpr (isFlush_cons.mp h)

theorem isFlush_dropBlanks (text : List Char) :
  IsFlush (dropBlanks text)
  := by
  intro c hc
  have hhead := List.head?_dropWhile_not isBlank text
  rw [dropBlanks] at hc
  rw [Option.mem_def.mp hc] at hhead
  apply hhead

theorem dropBlanks_of_isFlush {text : List Char} (h : IsFlush text) :
  dropBlanks text = text
  := by
  cases text with
  | nil => rfl
  | cons c text =>
    rw [dropBlanks, List.dropWhile_cons_of_neg]
    rw [isFlush_cons.mp h]
    apply Bool.false_ne_true

/-- The blanks at the front of a text are exactly what is dropped. -/
theorem dropBlanks_append {gap text : List Char} (hgap : ∀ c ∈ gap, isBlank c = true)
    (htext : IsFlush text) :
  dropBlanks (gap ++ text) = text
  := by
  rw [dropBlanks, List.dropWhile_append_of_pos hgap]
  apply dropBlanks_of_isFlush htext

/-- A text without blanks at its ends is its own trim. -/
theorem trimChars_of_isFlush {text : List Char} (hfront : IsFlush text)
    (hend : IsFlush text.reverse) :
  trimChars text = text
  := by
  rw [trimChars, dropBlanks_of_isFlush hfront, dropBlanks_of_isFlush hend, List.reverse_reverse]

/-- The blanks around a text are exactly what is trimmed. -/
theorem trimChars_append {before text after : List Char} (hne : text ≠ []) (hfront : IsFlush text)
    (hend : IsFlush text.reverse) (hbefore : ∀ c ∈ before, isBlank c = true)
    (hafter : ∀ c ∈ after, isBlank c = true) :
  trimChars (before ++ (text ++ after)) = text
  := by
  have hreverse : ∀ c ∈ after.reverse, isBlank c = true :=
    fun c hc => hafter c (List.mem_reverse.mp hc)
  rw [trimChars, dropBlanks_append hbefore (isFlush_append hne hfront after), List.reverse_append,
    dropBlanks_append hreverse hend, List.reverse_reverse]

/-- A trimmed text does not end with a blank. -/
theorem isFlush_reverse_trimChars (text : List Char) :
  IsFlush (trimChars text).reverse
  := by
  rw [trimChars, List.reverse_reverse]
  apply isFlush_dropBlanks

/-- What is trimmed after the blanks at the front is at the end. -/
theorem trimChars_isPrefix (text : List Char) :
  trimChars text <+: dropBlanks text
  := by
  rw [trimChars, ← List.reverse_suffix, List.reverse_reverse]
  apply List.dropWhile_suffix

theorem trimChars_isInfix (text : List Char) :
  trimChars text <:+: text
  := by
  apply (trimChars_isPrefix text).isInfix.trans (List.dropWhile_suffix _).isInfix

/-- A trimmed text does not begin with a blank. -/
theorem isFlush_trimChars (text : List Char) :
  IsFlush (trimChars text)
  := by
  apply (isFlush_dropBlanks text).of_isPrefix (trimChars_isPrefix text)

/-- Trimming a trimmed text does nothing. -/
theorem trim_trim (s : String) :
  trim (trim s) = trim s
  := by
  rw [trim, trim, String.toList_ofList,
    trimChars_of_isFlush (isFlush_trimChars _) (isFlush_reverse_trimChars _)]

/-- Crossing a gap is cutting off a gap after which no blank follows. -/
theorem gap?_eq_some_iff {text rest : List Char} :
  gap? text = some rest ↔ ∃ gap, IsGap gap ∧ text = gap ++ rest ∧ IsFlush rest
  := by
  constructor
  · intro h
    cases text with
    | nil => contradiction
    | cons c text =>
      rw [gap?] at h
      split at h
      · next hc =>
        obtain rfl := Option.some.inj h
        use c :: text.takeWhile isBlank
        have htext : text.takeWhile isBlank ++ dropBlanks text = text :=
          List.takeWhile_append_dropWhile
        refine ⟨⟨List.cons_ne_nil _ _, ?_⟩, ?_, isFlush_dropBlanks text⟩
        · intro d hd
          obtain rfl | hd := List.mem_cons.mp hd
          · exact hc
          · apply List.mem_takeWhile_imp hd
        · rw [List.cons_append, htext]
      · contradiction
  · rintro ⟨gap, ⟨hne, hgap⟩, rfl, hrest⟩
    cases gap with
    | nil => contradiction
    | cons c gap =>
      obtain ⟨hc, hgap⟩ := List.forall_mem_cons.mp hgap
      rw [List.cons_append, gap?, if_pos hc, dropBlanks_append hgap hrest]

/-! ### Keywords -/

/-- A keyword is recognised where a text stands that folds to it. -/
theorem keyword?_eq_some_iff {word text rest : List Char} :
  keyword? word text = some rest ↔ ∃ front, front.map foldLetter = word ∧ text = front ++ rest
  := by
  induction word generalizing text with
  | nil =>
    rw [keyword?]
    constructor
    · intro h
      obtain rfl := Option.some.inj h
      exact ⟨[], rfl, rfl⟩
    · rintro ⟨front, hfront, rfl⟩
      obtain rfl := List.map_eq_nil_iff.mp hfront
      rfl
  | cons w word ih =>
    cases text with
    | nil =>
      rw [keyword?]
      constructor
      · intro h
        contradiction
      · rintro ⟨front, hfront, htext⟩
        obtain ⟨rfl, -⟩ := List.append_eq_nil_iff.mp htext.symm
        contradiction
    | cons c text =>
      rw [keyword?]
      constructor
      · intro h
        split at h
        · next hc =>
          obtain ⟨front, hfront, rfl⟩ := ih.mp h
          use c :: front
          rw [List.map_cons, hc, hfront]
          exact ⟨rfl, rfl⟩
        · contradiction
      · rintro ⟨front, hfront, htext⟩
        obtain ⟨d, tail, rfl, hd, htail⟩ := List.map_eq_cons_iff.mp hfront
        obtain ⟨rfl, rfl⟩ := List.cons.inj htext
        rw [if_pos hd]
        apply ih.mpr
        exact ⟨tail, htail, rfl⟩

/-- No letter is folded to a blank, and no blank to a letter. -/
theorem foldLetter_of_isBlank {c : Char} (h : isBlank c = true) :
  foldLetter c = c
  := by
  simp only [isBlank, Bool.or_eq_true, Bool.and_eq_true, decide_eq_true_eq, beq_iff_eq] at h
  have hcode : c.toNat < 97 ∨ 122 < c.toNat := by
    omega
  have hsmall : ¬ (97 ≤ c.toNat ∧ c.toNat ≤ 122) := by
    omega
  have hupper : c.toUpper = c := dif_neg hsmall
  have hlongS : c ≠ '\u017F' := by
    rintro rfl
    revert h
    decide
  have hkelvin : c ≠ '\u212A' := by
    rintro rfl
    revert h
    decide
  rw [foldLetter, if_neg hlongS, if_neg hkelvin, hupper]

/-- A keyword in any letter case begins with a character that is not blank if the keyword
does. -/
theorem isFlush_append_of_map_foldLetter {word front : List Char} (hne : word ≠ [])
    (hword : IsFlush word) (h : front.map foldLetter = word) (rest : List Char) :
  IsFlush (front ++ rest)
  := by
  obtain ⟨w, word, rfl⟩ := List.exists_cons_of_ne_nil hne
  obtain ⟨c, front, rfl, rfl, -⟩ := List.map_eq_cons_iff.mp h
  apply isFlush_cons.mpr
  cases hblank : isBlank c with
  | false => rfl
  | true =>
    have hletter := isFlush_cons.mp hword
    rw [foldLetter_of_isBlank hblank, hblank] at hletter
    contradiction

end Agenda.Text
