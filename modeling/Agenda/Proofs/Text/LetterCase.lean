import Agenda.Proofs.Text.Front
import Agenda.Text.Lower

/-!
# The case of ASCII letters

An ASCII letter has the same small form in either case.  It is cased and not case-ignorable in
either case, so the small forms of the sigmas around it do not depend on its case either, and it is
no blank.  A text is therefore put in small letters, and trimmed, in the same way whatever the case
of its ASCII letters is.
-/

namespace Agenda.Text

/-! ### Letters -/

/-- The letters of an alphabet are mapped to those of another one, and other characters to
themselves. -/
theorem letter_cases (f : Char → Char) (first image : Nat)
    (hletters : ∀ n < 26, f (Char.ofNat (first + n)) = Char.ofNat (image + n))
    (hothers : ∀ c : Char, ¬ (first ≤ c.toNat ∧ c.toNat ≤ first + 25) → f c = c) (c : Char) :
  f c = c ∨ ∃ n < 26, c = Char.ofNat (first + n) ∧ f c = Char.ofNat (image + n)
  := by
  by_cases h : first ≤ c.toNat ∧ c.toNat ≤ first + 25
  · right
    have hc : c = Char.ofNat (first + (c.toNat - first)) := by
      rw [Nat.add_sub_cancel' h.1, Char.ofNat_toNat]
    refine ⟨c.toNat - first, by omega, hc, ?_⟩
    rw [← hletters _ (by omega), ← hc]
  · left
    apply hothers c h

/-- A character is its own small ASCII letter unless it is a capital one. -/
theorem toLower_cases (c : Char) :
  c.toLower = c ∨ ∃ n < 26, c = Char.ofNat (65 + n) ∧ c.toLower = Char.ofNat (97 + n)
  := letter_cases Char.toLower 65 97 (by decide) (fun _ h => dif_neg h) c

/-- A character is its own capital ASCII letter unless it is a small one. -/
theorem toUpper_cases (c : Char) :
  c.toUpper = c ∨ ∃ n < 26, c = Char.ofNat (97 + n) ∧ c.toUpper = Char.ofNat (65 + n)
  := letter_cases Char.toUpper 97 65 (by decide) (fun _ h => dif_neg h) c

/-- What every ASCII letter has in both cases is the same for every character and the small ASCII
letter of it. -/
theorem apply_toLower {α : Type} {f : Char → α}
    (h : ∀ n < 26, f (Char.ofNat (97 + n)) = f (Char.ofNat (65 + n))) (c : Char) :
  f c.toLower = f c
  := by
  obtain hsame | ⟨n, hn, hc, hlower⟩ := toLower_cases c
  · rw [hsame]
  · rw [hlower, h n hn, hc]

theorem apply_toUpper {α : Type} {f : Char → α}
    (h : ∀ n < 26, f (Char.ofNat (97 + n)) = f (Char.ofNat (65 + n))) (c : Char) :
  f c.toUpper = f c
  := by
  obtain hsame | ⟨n, hn, hc, hupper⟩ := toUpper_cases c
  · rw [hsame]
  · rw [hupper, ← h n hn, hc]

theorem toLower_toLower (c : Char) :
  c.toLower.toLower = c.toLower
  := apply_toLower (by decide) c

theorem toLower_toUpper (c : Char) :
  c.toUpper.toLower = c.toLower
  := apply_toUpper (by decide) c

theorem isCased_toLower (c : Char) :
  isCased c.toLower = isCased c
  := apply_toLower (by decide +kernel) c

theorem isCaseIgnorable_toLower (c : Char) :
  isCaseIgnorable c.toLower = isCaseIgnorable c
  := apply_toLower (by decide +kernel) c

theorem isBlank_toLower (c : Char) :
  isBlank c.toLower = isBlank c
  := apply_toLower (by decide) c

theorem lowerChar_toLower (c : Char) :
  lowerChar c.toLower = lowerChar c
  := apply_toLower (by decide) c

/-! ### Texts -/

theorem map_toLower_dropWhile {p : Char → Bool} (h : ∀ c : Char, p c.toLower = p c)
    (s : List Char) :
  (s.map Char.toLower).dropWhile p = (s.dropWhile p).map Char.toLower
  := by
  have hp : p ∘ Char.toLower = p := funext h
  rw [List.dropWhile_map, hp]

theorem reachesCased_map_toLower (s : List Char) :
  reachesCased (s.map Char.toLower) = reachesCased s
  := by
  rw [reachesCased, map_toLower_dropWhile isCaseIgnorable_toLower, reachesCased]
  cases s.dropWhile isCaseIgnorable with
  | nil => rfl
  | cons c rest => apply isCased_toLower

/-- Neither the letters themselves nor the sigmas among them depend on the case of the ASCII
letters. -/
theorem lowerFrom_map_toLower (before rest : List Char) :
  lowerFrom (before.map Char.toLower) (rest.map Char.toLower) = lowerFrom before rest
  := by
  induction rest generalizing before with
  | nil => rfl
  | cons c rest ih =>
    have hsigma : (c.toLower == 'Σ') = (c == 'Σ') := apply_toLower (f := (· == 'Σ')) (by decide) c
    rw [Bool.eq_iff_iff, beq_iff_eq, beq_iff_eq] at hsigma
    rw [List.map_cons, lowerFrom, lowerFrom, ← List.map_cons, ih, lowerChar_toLower, lowerSigma,
      lowerSigma, reachesCased_map_toLower, reachesCased_map_toLower]
    simp only [hsigma]

theorem lowerChars_map_toLower (s : List Char) :
  lowerChars (s.map Char.toLower) = lowerChars s
  := lowerFrom_map_toLower [] s

theorem trimChars_map_toLower (s : List Char) :
  trimChars (s.map Char.toLower) = (trimChars s).map Char.toLower
  := by
  simp only [trimChars, dropBlanks, map_toLower_dropWhile isBlank_toLower, ← List.map_reverse]

/-! ### Spellings -/

/-- One text arises from the other when ASCII letters are put in the other case and ignored
characters are put in and left out. -/
inductive Respells (ignored : Char → Prop) : List Char → List Char → Prop
  | nil : Respells ignored [] []
  | keep (c : Char) {s t : List Char} (h : Respells ignored s t) : Respells ignored (c :: s) (c :: t)
  | small (c : Char) {s t : List Char} (h : Respells ignored s t) :
    Respells ignored (c :: s) (c.toLower :: t)
  | capital (c : Char) {s t : List Char} (h : Respells ignored s t) :
    Respells ignored (c :: s) (c.toUpper :: t)
  | insert {c : Char} (hc : ignored c) {s t : List Char} (h : Respells ignored s t) :
    Respells ignored s (c :: t)
  | delete {c : Char} (hc : ignored c) {s t : List Char} (h : Respells ignored s t) :
    Respells ignored (c :: s) t

/-- One text arises from the other when ASCII letters are put in the other case. -/
def Recases (s t : String) : Prop :=
  Respells (fun _ => False) s.toList t.toList

/-- What is left of two spellings without the ignored characters differs in the case of ASCII letters
only. -/
theorem Respells.map_toLower_filter {ignored : Char → Prop} {p : Char → Bool}
    (hignored : ∀ c, ignored c → p c = false) (hp : ∀ c : Char, p c.toLower = p c)
    {s t : List Char} (h : Respells ignored s t) :
  (s.filter p).map Char.toLower = (t.filter p).map Char.toLower
  := by
  have hcase : ∀ {c d : Char} {s t : List Char}, c.toLower = d.toLower →
      (s.filter p).map Char.toLower = (t.filter p).map Char.toLower →
      ((c :: s).filter p).map Char.toLower = ((d :: t).filter p).map Char.toLower := by
    intro c d s t hcd ih
    have hsame : p c = p d := by
      rw [← hp c, hcd, hp]
    rw [List.filter_cons, List.filter_cons, hsame]
    split
    · rw [List.map_cons, List.map_cons, hcd, ih]
    · exact ih
  induction h with
  | nil => rfl
  | keep c _ ih => exact hcase rfl ih
  | small c _ ih => exact hcase (toLower_toLower c).symm ih
  | capital c _ ih => exact hcase (toLower_toUpper c).symm ih
  | insert hc _ ih => rw [List.filter_cons_of_neg (by simp [hignored _ hc]), ih]
  | delete hc _ ih => rw [List.filter_cons_of_neg (by simp [hignored _ hc]), ih]

namespace Recases

variable {s t : String}

theorem map_toLower (h : Recases s t) :
  s.toList.map Char.toLower = t.toList.map Char.toLower
  := by
  have hall : ∀ u : List Char, u.filter (fun _ => true) = u :=
    fun u => List.filter_eq_self.mpr fun _ _ => rfl
  have hletters := Respells.map_toLower_filter (p := fun _ => true) (fun _ => False.elim)
    (fun _ => rfl) h
  rwa [hall, hall] at hletters

theorem lower_eq (h : Recases s t) :
  lower s = lower t
  := by
  rw [lower, lower, ← lowerChars_map_toLower, h.map_toLower, lowerChars_map_toLower]

theorem lower_trim_eq (h : Recases s t) :
  lower (trim s) = lower (trim t)
  := by
  rw [lower, lower, trim, trim, String.toList_ofList, String.toList_ofList,
    ← lowerChars_map_toLower, ← trimChars_map_toLower, h.map_toLower, trimChars_map_toLower,
    lowerChars_map_toLower]

end Recases

end Agenda.Text
