import Agenda.Json.Document

/-!
# Values of tokens

`Completes tokens value` says that the tokens are read as the value wherever a value may
begin.  It holds of the tokens of an array or an object when it holds of those of its parts.
-/

namespace Agenda.Json.Document

open Text (Symbol)

/-- A value may begin here. -/
def Expected.IsBegin : Expected → Prop
  | .value => True
  | .item => True
  | _ => False

/-- The tokens are read as the value, whatever is open and whatever follows. -/
def Completes (tokens : List Token) (value : Document) : Prop :=
  ∀ (rest : List Token) (frames : List Frame) (expected : Expected), expected.IsBegin →
    read? (tokens ++ rest) frames expected = read? rest frames (.rest value)

theorem ofTokens?_of_completes {tokens : List Token} {value : Document}
    (h : Completes tokens value) :
  ofTokens? tokens = some value
  := by
  have hread := h [] [] .value trivial
  rw [List.append_nil] at hread
  rw [ofTokens?, hread]
  rfl

theorem read?_cons {token : Token} {tokens : List Token} {frames frames' : List Frame}
    {expected expected' : Expected}
    (h : advance? token frames expected = some (frames', expected')) :
  read? (token :: tokens) frames expected = read? tokens frames' expected'
  := by
  rw [read?.eq_def]
  simp [h]

/-- A token that is a value on its own is read as that value. -/
theorem completes_token {token : Token} {value : Document} (h : ofToken? token = some value) :
  Completes [token] value
  := by
  intro rest frames expected hbegin
  apply read?_cons
  cases expected <;> cases token <;> simp_all [advance?, begin?, ofToken?, Expected.IsBegin]

section

variable {α : Type} {tokens : α → List Token} {value : α → Document}

/-- The items that are still to come complete an array. -/
theorem read?_items (a : α) (items : List α) (h : ∀ b ∈ a :: items, Completes (tokens b) (value b))
    (before : List Document) (rest : List Token) (frames : List Frame) (expected : Expected)
    (hbegin : expected.IsBegin) :
  read? ([Token.comma].intercalate ((a :: items).map tokens) ++ .arrayClose :: rest)
      (.array before :: frames) expected
    = read? rest frames (.rest (.array (before.reverse ++ (a :: items).map value)))
  := by
  induction items generalizing a before expected with
  | nil =>
    rw [List.map_singleton, List.intercalate_singleton, h a List.mem_cons_self _ _ _ hbegin]
    apply Eq.trans (read?_cons rfl)
    simp
  | cons b items ih =>
    obtain ⟨ha, hitems⟩ := List.forall_mem_cons.mp h
    rw [List.map_cons, List.map_cons, List.intercalate_cons_cons, List.append_assoc,
      List.append_assoc, ha _ _ _ hbegin]
    apply Eq.trans (read?_cons rfl)
    apply Eq.trans (ih b hitems (value a :: before) .value trivial)
    simp

theorem completes_array (items : List α) (h : ∀ a ∈ items, Completes (tokens a) (value a)) :
  Completes (.arrayOpen :: ([Token.comma].intercalate (items.map tokens) ++ [.arrayClose]))
    (.array (items.map value))
  := by
  intro rest frames expected hbegin
  have hopen : advance? .arrayOpen frames expected = some (.array [] :: frames, .item) := by
    cases expected <;> simp_all [advance?, begin?, Expected.IsBegin]
  rw [List.cons_append, read?_cons hopen, List.append_assoc]
  cases items with
  | nil => apply read?_cons rfl
  | cons a items =>
    apply Eq.trans (read?_items a items h [] rest frames .item trivial)
    rfl

variable {key : α → List Symbol}

/-- The members that are still to come complete an object. -/
theorem read?_members (a : α) (members : List α)
    (h : ∀ b ∈ a :: members, Completes (tokens b) (value b))
    (before : List (List Symbol × Document)) (rest : List Token) (frames : List Frame) :
  read? ([Token.comma].intercalate
        ((a :: members).map fun b => .literal (key b) :: .colon :: tokens b)
      ++ .objectClose :: rest) frames (.key before)
    = read? rest frames
        (.rest (.object (before.reverse ++ (a :: members).map fun b => (key b, value b))))
  := by
  induction members generalizing a before with
  | nil =>
    rw [List.map_singleton, List.intercalate_singleton]
    apply Eq.trans (read?_cons rfl)
    apply Eq.trans (read?_cons rfl)
    apply Eq.trans (h a List.mem_cons_self _ _ .value trivial)
    apply Eq.trans (read?_cons rfl)
    simp
  | cons b members ih =>
    obtain ⟨ha, hmembers⟩ := List.forall_mem_cons.mp h
    rw [List.map_cons, List.map_cons, List.intercalate_cons_cons, List.append_assoc,
      List.append_assoc]
    apply Eq.trans (read?_cons rfl)
    apply Eq.trans (read?_cons rfl)
    apply Eq.trans (ha _ _ .value trivial)
    apply Eq.trans (read?_cons rfl)
    apply Eq.trans (ih b hmembers ((key a, value a) :: before))
    simp

theorem completes_object (members : List α) (h : ∀ a ∈ members, Completes (tokens a) (value a)) :
  Completes (.objectOpen :: ([Token.comma].intercalate
        (members.map fun a => .literal (key a) :: .colon :: tokens a) ++ [.objectClose]))
    (.object (members.map fun a => (key a, value a)))
  := by
  intro rest frames expected hbegin
  have hopen : advance? .objectOpen frames expected = some (frames, .member) := by
    cases expected <;> simp_all [advance?, begin?, Expected.IsBegin]
  rw [List.cons_append, read?_cons hopen, List.append_assoc]
  cases members with
  | nil => apply read?_cons rfl
  | cons a members =>
    apply Eq.trans _ (read?_members a members h [] rest frames)
    cases members <;> rfl

end

end Agenda.Json.Document
