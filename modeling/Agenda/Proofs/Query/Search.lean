import Agenda.Proofs.Query.Filtering
import Agenda.Proofs.Text.Lower

/-!
# Searching for a part of a text

A text is searched in small letters.  So a part of it is found when it has the same small form
within the text as it has alone.  The two forms differ only where a capital sigma ends a word in
the one and not in the other: `ΑΣ` is a part of `ΑΣΑ`, but `ας` is none of `ασα`.
-/

namespace Agenda

open Query Text

variable {part text : String}

/-- A task is found by what occurs in small letters in a field. -/
theorem Query.Predicate.holds_contains {t : Task} {field : String}
    (hpercent : '%' ∉ part.toList) (htext : (t.field field).display = text)
    (h : lowerChars part.toList <:+: lowerChars text.toList) :
  Predicate.holds ⟨field, .contains, part⟩ t = true
  := by
  have hlower : (lower part).toList <:+: (lower text).toList := by
    rw [lower, lower, String.toList_ofList, String.toList_ofList]
    exact h
  rw [Predicate.holds, needle_eq_lower hpercent, htext]
  apply occursIn_iff.mpr hlower

/-- A filter with nothing but a search keeps the tasks in whose titles the trimmed text occurs in
small letters. -/
theorem Filter.keeps_search {t : Task} {search : String} (hsearch : trim search = part)
    (htitle : t.title = text) (h : lowerChars part.toList <:+: lowerChars text.toList) :
  Filter.keeps { search := some search } t = true
  := by
  have hlower : (lower part).toList <:+: (lower text).toList := by
    rw [lower, lower, String.toList_ofList, String.toList_ofList]
    exact h
  have hfinds : finds search t = true := by
    rw [finds, hsearch, htitle]
    apply occursIn_iff.mpr hlower
  rw [keeps, Option.all_some, hfinds]
  rfl

/-- Searching a text for a part of it.  When all capital sigmas of the part keep their small forms
within the text, a query finds the tasks that show the text in the searched field, provided that
the part has no percent sign, and a filter finds those with the text as their title.  The sigmas
keep their forms just when the part becomes in the text what it becomes alone.  They do so in any
text when there are none of them, and when each of them is enclosed in the part. -/
theorem found_by_part (before part after : String) :
  (KeepsSigmas before.toList part.toList after.toList →
    (∀ (t : Task) (field : String), (t.field field).display = before ++ (part ++ after) →
      '%' ∉ part.toList → Predicate.holds ⟨field, .contains, part⟩ t = true)
    ∧ ∀ (t : Task) (search : String), t.title = before ++ (part ++ after) → trim search = part →
      Filter.keeps { search := some search } t = true)
  ∧ (lowerBetween before.toList.reverse part.toList after.toList = lowerChars part.toList ↔
    KeepsSigmas before.toList part.toList after.toList)
  ∧ ('Σ' ∉ part.toList → KeepsSigmas before.toList part.toList after.toList)
  ∧ (EnclosesSigmas part.toList → KeepsSigmas before.toList part.toList after.toList)
  := by
  refine ⟨?_, lowerBetween_eq_lowerChars_iff, ?_, fun h => h.keepsSigmas _ _⟩
  · intro hkeeps
    have hinfix : lowerChars part.toList <:+: lowerChars (before ++ (part ++ after)).toList := by
      rw [String.toList_append, String.toList_append]
      apply hkeeps.lowerChars_isInfix
    constructor
    · intro t field hdisplay hpercent
      apply Predicate.holds_contains hpercent hdisplay hinfix
    · intro t search htitle hsearch
      apply Filter.keeps_search hsearch htitle hinfix
  · intro hnone
    apply (enclosesSigmas_of_notMem hnone).keepsSigmas

/-- A word that ends with a sigma is found between two other words with sigmas. -/
theorem found_by_part_finalSigma :
  KeepsSigmas "ΑΣ ".toList "ΟΔΟΣ".toList " ΣΑΣ".toList
    ∧ Predicate.holds ⟨"title", .contains, "ΟΔΟΣ"⟩
      ⟨"a", "ΑΣ ΟΔΟΣ ΣΑΣ", "", "", "", false, none⟩ = true
    ∧ Filter.keeps { search := some "\u2003ΟΔΟΣ\n" }
      ⟨"a", "ΑΣ ΟΔΟΣ ΣΑΣ", "", "", "", false, none⟩ = true
  := by
  have hkeeps : KeepsSigmas "ΑΣ ".toList "ΟΔΟΣ".toList " ΣΑΣ".toList := by
    apply lowerBetween_eq_lowerChars_iff.mp
    decide +kernel
  obtain ⟨hfound, -⟩ := found_by_part "ΑΣ " "ΟΔΟΣ" " ΣΑΣ"
  obtain ⟨hquery, hfilter⟩ := hfound hkeeps
  refine ⟨hkeeps, ?_, ?_⟩
  · apply hquery _ "title" rfl
    decide
  · apply hfilter _ _ rfl
    decide

/-- A part that ends with a sigma is not found where a letter follows it. -/
theorem not_found_before_letter :
  let t : Task := ⟨"a", "ΑΣΑ", "", "", "", false, none⟩
  (t.field "title").display = "" ++ ("ΑΣ" ++ "Α") ∧ '%' ∉ "ΑΣ".toList ∧ trim "ΑΣ" = "ΑΣ"
    ∧ Predicate.holds ⟨"title", .contains, "ΑΣ"⟩ t = false
    ∧ Filter.keeps { search := some "ΑΣ" } t = false
  := by
  decide +kernel

end Agenda
