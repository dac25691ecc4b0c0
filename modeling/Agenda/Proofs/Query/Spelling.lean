import Agenda.Proofs.Text.LetterCase
import Agenda.Query.Select
import Agenda.Task.Filter

/-!
# Spellings of what is sought

It does not matter where percent signs stand in the value of a `contains` predicate, how many there
are, and in which case its ASCII letters and those of the text in which it is sought are.  Filters
do not distinguish the case of ASCII letters either.  All this holds also next to characters whose
small form depends on what is around them.
-/

namespace Agenda

open Query Text

namespace Query

variable {value value' field : String} {t t' : Task}

/-- A percent sign is no letter. -/
theorem needle_eq (h : Respells (· = '%') value.toList value'.toList) :
  needle value = needle value'
  := by
  have hignored : ∀ c, c = '%' → (c != '%') = false := by
    rintro c rfl
    rfl
  have hpercent : ∀ c : Char, (c.toLower != '%') = (c != '%') :=
    apply_toLower (f := (· != '%')) (by decide)
  have hletters := h.map_toLower_filter hignored hpercent
  rw [needle, needle, lower, lower, String.toList_ofList, String.toList_ofList,
    ← lowerChars_map_toLower, hletters, lowerChars_map_toLower]

theorem holds_respelled (h : Respells (· = '%') value.toList value'.toList) (field : String)
    (t : Task) :
  Predicate.holds ⟨field, .contains, value⟩ t = Predicate.holds ⟨field, .contains, value'⟩ t
  := by
  simp only [Predicate.holds, needle_eq h]

theorem holds_recased (h : Recases (t.field field).display (t'.field field).display)
    (value : String) :
  Predicate.holds ⟨field, .contains, value⟩ t = Predicate.holds ⟨field, .contains, value⟩ t'
  := by
  simp only [Predicate.holds, h.lower_eq]

end Query

namespace Filter

variable {search search' title : String} {t : Task}

theorem finds_recased (h : Recases search search') (t : Task) :
  finds search t = finds search' t
  := by
  rw [finds, finds, h.lower_trim_eq]

theorem finds_title (h : Recases t.title title) (search : String) :
  finds search t = finds search { t with title }
  := by
  rw [finds, finds, h.lower_eq]

/-- A title in another spelling makes no difference to a filter. -/
theorem keeps_title (h : Recases t.title title) (f : Filter) :
  f.keeps t = f.keeps { t with title }
  := by
  have hfinds : ∀ search, finds search t = finds search { t with title } := finds_title h
  have hadmits : f.status.admits t = f.status.admits { t with title } := by
    cases f.status <;> rfl
  simp only [keeps, hfinds, hadmits]

end Filter

/-- What is sought is found in whatever way it is spelled, and in whatever way the text is spelled in
which it is sought.  In a query percent signs may be put in and left out of the value.  In the
value, in the searched field, in the text of a filter and in the title, ASCII letters may be put in
the other case. -/
theorem found_in_every_spelling :
  (∀ (value value' field : String) (t : Task),
    Respells (· = '%') value.toList value'.toList →
      Predicate.holds ⟨field, .contains, value⟩ t = Predicate.holds ⟨field, .contains, value'⟩ t)
  ∧ (∀ (value field : String) (t t' : Task),
    Recases (t.field field).display (t'.field field).display →
      Predicate.holds ⟨field, .contains, value⟩ t = Predicate.holds ⟨field, .contains, value⟩ t')
  ∧ (∀ (f : Filter) (search search' : String) (t : Task), Recases search search' →
      Filter.keeps { f with search := some search } t
        = Filter.keeps { f with search := some search' } t)
  ∧ ∀ (f : Filter) (title : String) (t : Task), Recases t.title title →
      Filter.keeps f t = Filter.keeps f { t with title }
  := by
  refine ⟨?_, ?_, ?_, ?_⟩
  · intro value value' field t h
    apply holds_respelled h
  · intro value field t t' h
    apply holds_recased h
  · intro f search search' t h
    simp only [Filter.keeps, Option.all_some, Filter.finds_recased h]
  · intro f title t h
    apply Filter.keeps_title h

/-- Sigmas stay what they are when the letters next to them and the percent signs change. -/
theorem found_in_every_spelling_sigma :
  Respells (· = '%') "aΣ%b%".toList "%AΣB".toList ∧ Recases "xaΣb ΟΔΟΣ" "xAΣB ΟΔΟΣ"
    ∧ Predicate.holds ⟨"title", .contains, "%AΣB"⟩ ⟨"a", "xaΣb ΟΔΟΣ", "", "", "", false, none⟩ = true
    ∧ Filter.keeps { search := some "AΣB ΟΔΟΣ" } ⟨"a", "xAΣB ΟΔΟΣ", "", "", "", false, none⟩ = true
  := by
  have hvalue : Respells (· = '%') "aΣ%b%".toList "%AΣB".toList :=
    .insert (by rfl) <| .capital 'a' <| .keep 'Σ' <| .delete (by rfl) <| .capital 'b' <|
      .delete (by rfl) .nil
  have htext : Recases "xaΣb ΟΔΟΣ" "xAΣB ΟΔΟΣ" :=
    .keep 'x' <| .capital 'a' <| .keep 'Σ' <| .capital 'b' <| .keep ' ' <|
      .keep 'Ο' <| .keep 'Δ' <| .keep 'Ο' <| .keep 'Σ' .nil
  have hsearch : Recases "aΣb ΟΔΟΣ" "AΣB ΟΔΟΣ" :=
    .capital 'a' <| .keep 'Σ' <| .capital 'b' <| .keep ' ' <|
      .keep 'Ο' <| .keep 'Δ' <| .keep 'Ο' <| .keep 'Σ' .nil
  obtain ⟨hquery, -, hfilter, htitle⟩ := found_in_every_spelling
  refine ⟨hvalue, htext, ?_, ?_⟩
  · rw [← hquery _ _ "title" _ hvalue]
    decide +kernel
  · rw [← hfilter {} _ _ _ hsearch, ← htitle _ _ ⟨"a", "xaΣb ΟΔΟΣ", "", "", "", false, none⟩ htext]
    decide +kernel

end Agenda
