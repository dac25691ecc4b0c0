/-!
# Bindings

A list of names with their values, in which no name is expected to occur twice.  `put` keeps
the place of a name that is bound already and adds a new name at the end.
-/

namespace Agenda

/-- Names with their values. -/
abbrev Bindings (α : Type) := List (String × α)

namespace Bindings

variable {α : Type}

/-- The value of the name. -/
def get? (name : String) : Bindings α → Option α
  | [] => none
  | (key, value) :: rest => if key = name then some value else get? name rest

/-- The bindings with the name bound to the value. -/
def put (name : String) (value : α) : Bindings α → Bindings α
  | [] => [(name, value)]
  | (key, old) :: rest =>
    if key = name then (name, value) :: rest else (key, old) :: put name value rest

/-- The bindings without the name. -/
def drop (name : String) (bindings : Bindings α) : Bindings α :=
  bindings.filter (·.1 != name)

/-- After a value is put, its name has that value and the others are as before. -/
theorem get?_put (name other : String) (value : α) (bindings : Bindings α) :
  get? other (put name value bindings) =
    if other = name then some value else get? other bindings
  := by
  induction bindings with
  | nil => simp [put, get?, eq_comm]
  | cons entry rest ih =>
    obtain ⟨key, old⟩ := entry
    simp only [put]
    split
    · next heq =>
      subst heq
      by_cases h : key = other
      · simp [get?, h]
      · simp [get?, h, Ne.symm h]
    · next hne =>
      simp only [get?, ih]
      by_cases h : key = other
      · subst h
        simp [hne]
      · simp [h]

/-- A dropped name has no value and the others are as before. -/
theorem get?_drop (name other : String) (bindings : Bindings α) :
  get? other (drop name bindings) = if other = name then none else get? other bindings
  := by
  induction bindings with
  | nil => simp [drop, get?]
  | cons entry rest ih =>
    obtain ⟨key, value⟩ := entry
    unfold drop at ih
    by_cases hkey : key = name
    · subst hkey
      by_cases h : key = other
      · subst h
        simpa [drop, get?] using ih
      · simp [drop, get?, ih, h, Ne.symm h]
    · by_cases h : key = other
      · subst h
        simp [drop, get?, hkey]
      · simp [drop, get?, ih, h, hkey]

/-- Of two values that are put under one name the later one counts. -/
theorem put_put (name : String) (value old : α) (bindings : Bindings α) :
  put name value (put name old bindings) = put name value bindings
  := by
  induction bindings with
  | nil => simp [put]
  | cons entry rest ih =>
    obtain ⟨key, older⟩ := entry
    by_cases h : key = name
    · simp [put, h]
    · simp [put, h, ih]

/-- To put the value that a name has already changes nothing. -/
theorem put_of_get? {name : String} {value : α} {bindings : Bindings α}
    (h : get? name bindings = some value) :
  put name value bindings = bindings
  := by
  induction bindings with
  | nil => simp [get?] at h
  | cons entry rest ih =>
    obtain ⟨key, old⟩ := entry
    by_cases hkey : key = name
    · simp_all [put, get?]
    · simp_all [put, get?]

/-- A new name that is put and dropped leaves nothing behind. -/
theorem drop_put_of_get? {name : String} {bindings : Bindings α}
    (h : get? name bindings = none) (value : α) :
  drop name (put name value bindings) = bindings
  := by
  induction bindings with
  | nil => simp [put, drop]
  | cons entry rest ih =>
    obtain ⟨key, old⟩ := entry
    by_cases hkey : key = name
    · simp [get?, hkey] at h
    · simp_all [put, get?, drop]

end Bindings

end Agenda
