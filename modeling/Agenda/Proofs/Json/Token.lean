import Agenda.Json.Token
import Agenda.Proofs.Json.Literal

/-!
# Written tokens

`Spells text tokens` says that a text is read as the given tokens wherever it stands.  Texts
with this property may be put one after the other, so what is written part by part is read
part by part.
-/

namespace Agenda.Json

open Text (Symbol)

/-- The text is read as the tokens, whatever follows it. -/
def Spells (text : List Char) (tokens : List Token) : Prop :=
  ∀ rest, tokens? (text.map .char ++ rest) = (tokens? rest).map (tokens ++ ·)

/-- Characters that are blanks between tokens. -/
def AreGaps (text : List Char) : Prop :=
  ∀ c ∈ text, isGap (.char c) = true

theorem tokens?_of_token? {symbol : Symbol} {rest later : List Symbol} {k : Token}
    (hgap : isGap symbol = false) (h : token? (symbol :: rest) = some (k, later)) :
  tokens? (symbol :: rest) = (tokens? later).map (k :: ·)
  := by
  rw [tokens?]
  split
  · simp_all
  · split
    · simp_all
    · simp_all

theorem tokens?_of_spells {text : List Char} {tokens : List Token} (h : Spells text tokens) :
  tokens? (text.map .char) = some tokens
  := by
  have hend := h []
  rw [List.append_nil, tokens?] at hend
  simpa using hend

namespace Spells

theorem nil : Spells [] []
  := by
  intro rest
  simp

theorem append {s t : List Char} {ks ls : List Token} (hs : Spells s ks) (ht : Spells t ls) :
  Spells (s ++ t) (ks ++ ls)
  := by
  intro rest
  rw [List.map_append, List.append_assoc, hs, ht, Option.map_map]
  simp [Function.comp_def]

/-- A text that is read as one token spells it. -/
theorem token {c : Char} {s : List Char} {k : Token} (hgap : isGap (.char c) = false)
    (hread : ∀ rest, token? (.char c :: (s.map .char ++ rest)) = some (k, rest)) :
  Spells (c :: s) [k]
  := by
  intro rest
  rw [List.map_cons, List.cons_append, tokens?_of_token? hgap (hread rest)]
  rfl

theorem gap {s : List Char} (h : AreGaps s) :
  Spells s []
  := by
  induction s with
  | nil => apply nil
  | cons c s ih =>
    obtain ⟨hc, hs⟩ := List.forall_mem_cons.mp h
    intro rest
    rw [List.map_cons, List.cons_append, tokens?, if_pos hc]
    apply ih hs

/-- Blanks in front of a text do not count. -/
theorem after_gap {s t : List Char} {ks : List Token} (hs : AreGaps s) (ht : Spells t ks) :
  Spells (s ++ t) ks
  := append (gap hs) ht

theorem quote (s : String) :
  Spells (Json.quote s) [.literal ((escape s.toList).map .char)]
  := by
  apply token
  · decide
  · intro rest
    rw [List.map_append, List.append_assoc]
    simp [token?, closing?_escape]

/-- Texts with commas between them spell their tokens with commas between them. -/
theorem intercalate {α : Type} {text : α → List Char} {tokens : α → List Token} {parts : List α}
    (h : ∀ part ∈ parts, Spells (text part) (tokens part)) :
  Spells ([','].intercalate (parts.map text)) ([Token.comma].intercalate (parts.map tokens))
  := by
  match parts, h with
  | [], _ => apply nil
  | [part], h => simpa using h part List.mem_cons_self
  | part :: next :: parts, h =>
    obtain ⟨hpart, hparts⟩ := List.forall_mem_cons.mp h
    have hcomma : Spells [','] [.comma] := token rfl (fun _ => rfl)
    simp only [List.map_cons, List.intercalate_cons_cons, List.append_assoc]
    apply append hpart
    apply append hcomma
    apply intercalate hparts

end Spells

end Agenda.Json
