import Agenda.Proofs.Text.Front

/-!
# Patterns

Patterns describe texts, and a text may be described in several ways.  `Pattern.ways` lists
the ways to find a pattern at the front of a text in the order in which they are preferred: a
greedy repetition prefers more characters and one that is not greedy prefers fewer, and of two
alternatives the first is preferred.  What counts is the first way of the whole pattern, so that
a part of it gives way where the others would not be found otherwise.  `Pattern.groups?` is what
the groups of the pattern hold in the first way.
-/

namespace Agenda.Text

/-- A description of texts. -/
inductive Pattern where
  /-- The empty text. -/
  | nothing
  /-- The empty text, at the end of what is searched. -/
  | finish
  /-- One character of the class. -/
  | one (isIn : Char → Bool)
  /-- At least so many characters of the class. -/
  | repeated (isIn : Char → Bool) (least : Nat) (greedy : Bool)
  /-- The first pattern and then the second one. -/
  | seq (p q : Pattern)
  /-- The first pattern or the second one. -/
  | either (p q : Pattern)
  /-- The pattern, as a part of the text that is to be remembered. -/
  | group (p : Pattern)

/-- A way to find a pattern: what the pattern describes, which of its parts are remembered, in
the order in which they begin, and what follows. -/
structure Match where
  text : List Char
  groups : List (List Char)
  rest : List Char
deriving DecidableEq, Repr

namespace Pattern

/-- The pattern or the empty text, preferably the pattern. -/
def optional (p : Pattern) : Pattern :=
  either p nothing

/-- The word in any letter case. -/
def word : List Char → Pattern
  | [] => nothing
  | w :: rest => seq (one (foldLetter · == w)) (word rest)

/-- The numbers from `least` to `most`, downwards if more is preferred. -/
def lengths (least most : Nat) (greedy : Bool) : List Nat :=
  let upwards := List.range' least (most + 1 - least)
  if greedy then upwards.reverse else upwards

/-- The ways to find the pattern at the front of the text, the preferred ones first. -/
def ways (text : List Char) : Pattern → List Match
  | nothing => [⟨[], [], text⟩]
  | finish => if text.isEmpty then [⟨[], [], []⟩] else []
  | one isIn => match text with
    | [] => []
    | c :: rest => if isIn c then [⟨[c], [], rest⟩] else []
  | repeated isIn least greedy =>
    (lengths least (text.takeWhile isIn).length greedy).map fun n => ⟨text.take n, [], text.drop n⟩
  | seq p q => (p.ways text).flatMap fun m =>
    (q.ways m.rest).map fun n => ⟨m.text ++ n.text, m.groups ++ n.groups, n.rest⟩
  | either p q => p.ways text ++ q.ways text
  | group p => (p.ways text).map fun m => ⟨m.text, m.text :: m.groups, m.rest⟩

/-- What the groups hold in the first way to find the pattern. -/
def groups? (p : Pattern) (text : List Char) : Option (List (List Char)) :=
  (p.ways text).head?.map Match.groups

variable {isIn : Char → Bool} {text : List Char}

/-! ### Sequences -/

/-- The first way of a sequence goes on from the first way of its first part that lets the
second part be found. -/
theorem groups?_seq (p q : Pattern) (text : List Char) :
  (seq p q).groups? text
    = (p.ways text).findSome? fun m => (q.groups? m.rest).map (m.groups ++ ·)
  := by
  rw [groups?, ways, List.head?_flatMap, List.map_findSome?]
  congr
  funext m
  simp [groups?, Function.comp_def]

theorem groups?_group_seq (p q : Pattern) (text : List Char) :
  (seq (group p) q).groups? text
    = (p.ways text).findSome? fun m => (q.groups? m.rest).map (m.text :: m.groups ++ ·)
  := by
  rw [groups?_seq, ways, List.findSome?_map]
  rfl

/-- A character that may be missing is passed over where this lets the rest be found. -/
theorem groups?_optional_seq (isIn : Char → Bool) (q : Pattern) (text : List Char) :
  (seq (optional (one isIn)) q).groups? text = match text with
    | [] => q.groups? []
    | c :: rest => if isIn c then (q.groups? rest).or (q.groups? (c :: rest))
      else q.groups? (c :: rest)
  := by
  rw [groups?_seq, optional, ways, List.findSome?_append]
  cases text with
  | nil => simp [ways]
  | cons c rest =>
    simp only [ways]
    split <;> simp

/-- A word is found in one way at most. -/
theorem ways_word (w text : List Char) :
  (word w).ways text
    = ((keyword? w text).map fun rest => ⟨text.take w.length, [], rest⟩).toList
  := by
  induction w generalizing text with
  | nil => rfl
  | cons c w ih =>
    cases text with
    | nil => rfl
    | cons d text =>
      rw [word, ways, ways, keyword?]
      by_cases hd : foldLetter d = c
      · rw [if_pos (beq_iff_eq.mpr hd), if_pos hd, List.flatMap_singleton, ih]
        cases keyword? w text <;> simp
      · rw [if_neg (beq_iff_eq.not.mpr hd), if_neg hd]
        rfl

/-! ### Repetitions -/

/-- A greedy repetition prefers all characters of the class. -/
theorem lengths_greedy {least most : Nat} (h : least ≤ most) :
  lengths least most true = most :: (List.range' least (most - least)).reverse
  := by
  have hcount : most + 1 - least = (most - least) + 1 := by omega
  have hlast : least + (most - least) = most := by omega
  rw [lengths, if_pos rfl, hcount, List.range'_1_concat, List.reverse_append, hlast]
  rfl

/-- A greedy repetition takes all characters of the class, when the rest is found in no other way
where it is not found then. -/
theorem groups?_greedy_seq (q : Pattern)
    (hq : q.groups? (text.dropWhile isIn) = none →
      ∀ n < (text.takeWhile isIn).length, q.groups? (text.drop n) = none) :
  (seq (repeated isIn 0 true) q).groups? text = q.groups? (text.dropWhile isIn)
  := by
  have hid : (fun groups : List (List Char) => [] ++ groups) = id := rfl
  have hdrop : text.drop (text.takeWhile isIn).length = text.dropWhile isIn := by
    have hparts : (text.takeWhile isIn ++ text.dropWhile isIn).drop _ = text.dropWhile isIn :=
      List.drop_left
    rw [List.takeWhile_append_dropWhile] at hparts
    exact hparts
  rw [groups?_seq, ways, List.findSome?_map, lengths_greedy (Nat.zero_le _), List.findSome?_cons]
  simp only [Function.comp_apply, hdrop, hid, Option.map_id]
  cases hlast : q.groups? (text.dropWhile isIn) with
  | some groups => rfl
  | none =>
    apply List.findSome?_eq_none_iff.mpr
    intro n hn
    rw [List.mem_reverse, List.mem_range'_1] at hn
    rw [Function.comp_apply, hq hlast n (by omega)]
    rfl

/-- A repetition that is not greedy takes no more characters than it has to. -/
theorem groups?_lazy_group_seq {n : Nat} {groups : List (List Char)} (q : Pattern)
    (hpos : 1 ≤ n) (hle : n ≤ (text.takeWhile isIn).length)
    (hn : q.groups? (text.drop n) = some groups)
    (hleast : ∀ k, 1 ≤ k → k < n → q.groups? (text.drop k) = none) :
  (seq (group (repeated isIn 1 false)) q).groups? text = some (text.take n :: groups)
  := by
  rw [groups?_group_seq, ways, List.findSome?_map, lengths, if_neg Bool.false_ne_true]
  apply List.findSome?_eq_some_iff.mpr
  have hparts : List.range' 1 ((text.takeWhile isIn).length + 1 - 1)
      = List.range' 1 (n - 1) ++ n :: List.range' (n + 1) ((text.takeWhile isIn).length - n) := by
    have hcount : (text.takeWhile isIn).length + 1 - 1
        = (n - 1) + ((text.takeWhile isIn).length - n + 1) := by omega
    have hnext : 1 + 1 * (n - 1) = n := by omega
    rw [hcount, ← List.range'_append, hnext, List.range'_succ]
  refine ⟨_, n, _, hparts, ?_, ?_⟩
  · rw [Function.comp_apply, hn]
    rfl
  · intro k hk
    rw [List.mem_range'_1] at hk
    rw [Function.comp_apply, hleast k hk.1 (by omega)]
    rfl

end Pattern

end Agenda.Text
