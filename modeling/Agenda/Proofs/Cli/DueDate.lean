import Agenda.Proofs.Calendar.Entry
import Agenda.Proofs.Cli.Frame

/-!
# Due dates of added tasks

A due date is accepted if it is blank or, without the blanks around it, an entry of a date.  It is
kept as it is entered, except for the blanks around it, so it has the canonical form just when it
was entered in this form.  Every date in the canonical form is accepted.
-/

namespace Agenda.Cli

open Calendar (IsEntry IsCanonical IsPlain)
open Store.Backend (folderStorage)
open Text (isBlank)

variable {due : String} {text before after : List Char} {d : Calendar.Date}

/-! ### Which due dates are accepted -/

theorem checkGiven_some (check : String → Except Error Unit) (value : String) :
  checkGiven check (some value) = check value
  := rfl

/-- Blanks and entries of dates are accepted. -/
theorem checkDue_eq_ok_iff :
  checkDue due = .ok () ↔ Text.trim due = "" ∨ ∃ d, IsEntry d (Text.trim due).toList
  := by
  rw [checkDue, require_eq_ok_iff, Bool.or_eq_true, String.isEmpty_iff, Option.isSome_iff_exists]
  simp only [Calendar.ofEntry?_eq_some_iff]

/-- A date in the canonical form has no blanks at its ends. -/
theorem trimChars_canonical (h : IsCanonical d text) (hbefore : ∀ c ∈ before, isBlank c = true)
    (hafter : ∀ c ∈ after, isBlank c = true) :
  Text.trimChars (before ++ (text ++ after)) = text
  := by
  obtain ⟨-, hyear, -, hday, -, -, -⟩ := h
  apply Text.trimChars_append _ (hyear.isFlush_append _) _ hbefore hafter
  · apply List.append_ne_nil_of_left_ne_nil hyear.ne_nil
  · simp only [List.reverse_append, List.reverse_cons, List.append_assoc]
    apply Text.isFlush_append (List.reverse_eq_nil_iff.not.mpr hday.ne_nil)
    apply Calendar.isFlush_of_isDigit
    intro c hc
    apply hday.isDigit c (List.mem_reverse.mp hc)

/-- A date in the canonical form is accepted with any blanks around it. -/
theorem checkDue_canonical (h : IsCanonical d text) (hdue : due.toList = before ++ (text ++ after))
    (hbefore : ∀ c ∈ before, isBlank c = true) (hafter : ∀ c ∈ after, isBlank c = true) :
  checkDue due = .ok () ∧ (Text.trim due).toList = text
  := by
  have htrim : (Text.trim due).toList = text := by
    rw [Text.trim, hdue, String.toList_ofList, trimChars_canonical h hbefore hafter]
  refine ⟨checkDue_eq_ok_iff.mpr ?_, htrim⟩
  right
  rw [htrim]
  exact ⟨d, h.isEntry⟩

/-- A due date that is accepted is in the canonical form just when it consists of ten digits and
hyphens and has no hyphen in front. -/
theorem exists_isCanonical_iff (h : checkDue due = .ok ()) (hne : Text.trim due ≠ "") :
  (∃ d, IsCanonical d (Text.trim due).toList) ↔ IsPlain (Text.trim due).toList
  := by
  obtain hempty | ⟨d, hd⟩ := checkDue_eq_ok_iff.mp h
  · exact absurd hempty hne
  · exact ⟨fun ⟨_, hcanonical⟩ => hcanonical.isPlain, fun hplain => ⟨d, hd.isCanonical hplain⟩⟩

/-! ### What is kept -/

/-- A task whose arguments are accepted is put in front, with its due date as it is entered except
for the blanks around it. -/
theorem exists_added (s : FolderSession) (w : World) {title : String} {category due : Option String}
    (htitle : checkTitle title = .ok ()) (hcategory : checkGiven checkCategory category = .ok ())
    (hdue : checkGiven checkDue due = .ok ()) :
  ∃ t, (s.session.run (.add title category due) w).1.2.tasks = t :: s.store.tasks
    ∧ t.due = Text.trim (due.getD "")
  := by
  have hcheck : (do
      checkTitle title
      checkGiven checkCategory category
      checkGiven checkDue due) = .ok () :=
    bind_eq_ok_iff.mpr ⟨(), htitle, bind_eq_ok_iff.mpr ⟨(), hcategory, hdue⟩⟩
  obtain ⟨t, hcreate, -, ht⟩ := Store.create_of_ne ⟨title, category, due⟩
    (trim_ne_of_checkTitle htitle) s.store.options.defaultCategory w.birth s.store.tasks
  have hadd := Store.applied_inFolder
    (Store.applies_add_inFolder s.folder s.store ⟨title, category, due⟩ w) hcreate
  have hrun : s.session.run (.add title category due) w = (do
      let added ← s.store.add World.system.toSupply (folderStorage s.folder) ⟨title, category, due⟩
      return shown (fun t => ["Added " ++ t.id ++ ": " ++ t.title]) added :
        StateM World Outcome) w := by
    rw [Session.run, Session.add, hcheck]
    rfl
  refine ⟨t, ?_, ht⟩
  rw [hrun, Store.Backend.bind_apply, hadd]
  split <;> rfl

/-- What is entered as the due date of a new task. -/
structure KeepsDue (due : String) : Prop where
  /-- It is accepted if it is blank, or else an entry of a date. -/
  accepted : checkDue due = .ok () ↔ Text.trim due = "" ∨ ∃ d, IsEntry d (Text.trim due).toList
  /-- If it is accepted, a task is added with what was entered between the blanks around it. -/
  kept : checkDue due = .ok () → ∀ (s : FolderSession) (w : World) (title : String)
    (category : Option String), checkTitle title = .ok () →
      checkGiven checkCategory category = .ok () →
        ∃ t, (s.session.run (.add title category (some due)) w).1.2.tasks = t :: s.store.tasks
          ∧ t.due = Text.trim due
  /-- If it is accepted and not blank, this is in the canonical form just when there are ten digits
  and hyphens and no hyphen in front. -/
  canonical_iff : checkDue due = .ok () → Text.trim due ≠ "" →
    ((∃ d, IsCanonical d (Text.trim due).toList) ↔ IsPlain (Text.trim due).toList)
  /-- A date in the canonical form with any blanks around it is accepted, and kept in this form. -/
  canonical : ∀ before text after d, due.toList = before ++ (text ++ after) → IsCanonical d text →
    (∀ c ∈ before, isBlank c = true) → (∀ c ∈ after, isBlank c = true) →
      checkDue due = .ok () ∧ (Text.trim due).toList = text

/-- For every text that is entered. -/
theorem keepsDue (due : String) :
  KeepsDue due
  where
  accepted := checkDue_eq_ok_iff
  kept h s w _ _ htitle hcategory := exists_added s w htitle hcategory ((checkGiven_some _ _).trans h)
  canonical_iff := exists_isCanonical_iff
  canonical _ _ _ _ hdue h hbefore hafter := checkDue_canonical h hdue hbefore hafter

/-- A leap day is accepted with blanks around it. -/
theorem keepsDue_leapDay :
  checkDue "\t2024-02-29 " = .ok () ∧ Text.trim "\t2024-02-29 " = "2024-02-29"
  := by
  have hyear : Calendar.Writes ['2', '0', '2', '4'] 2024 :=
    ⟨by decide, List.all_eq_true.mp rfl, rfl⟩
  have hmonth : Calendar.Writes ['0', '2'] 2 := ⟨by decide, List.all_eq_true.mp rfl, rfl⟩
  have hday : Calendar.Writes ['2', '9'] 29 := ⟨by decide, List.all_eq_true.mp rfl, rfl⟩
  have hcanonical := @IsCanonical.intro ⟨2024, 2, 29, by decide, by decide, by decide⟩ _ _ _ _ rfl
    hyear hmonth hday rfl rfl rfl
  obtain ⟨hok, htrim⟩ := (keepsDue "\t2024-02-29 ").canonical ['\t'] _ [' '] _ (by decide +kernel)
    hcanonical (List.all_eq_true.mp rfl) (List.all_eq_true.mp rfl)
  refine ⟨hok, String.toList_inj.mp ?_⟩
  rw [htrim]
  decide +kernel

/-- A month and a day of one digit are accepted and kept. -/
theorem keeps_singleDigits :
  checkDue "2024-5-1" = .ok ()
    ∧ ∃ t, (FolderSession.emptySession.session.run (.add "t" none (some "2024-5-1"))
        Storage.Access.emptyWorld).1.2.tasks = [t]
      ∧ t.due = "2024-5-1" ∧ ¬ ∃ d, IsCanonical d t.due.toList
  := by
  have hcheck : checkDue "2024-5-1" = .ok () := by decide +kernel
  use hcheck
  have htitle : checkTitle "t" = .ok () := by decide +kernel
  have hcategory : checkGiven checkCategory none = .ok () := rfl
  have hgiven : checkGiven checkDue (some "2024-5-1") = .ok () := (checkGiven_some _ _).trans hcheck
  obtain ⟨t, htasks, hdue⟩ := exists_added FolderSession.emptySession Storage.Access.emptyWorld
    htitle hcategory hgiven
  have htrim : t.due = "2024-5-1" := hdue
  refine ⟨t, htasks, htrim, ?_⟩
  rintro ⟨d, hd⟩
  have hlength := hd.isPlain.length
  rw [htrim] at hlength
  cases hlength

end Agenda.Cli
