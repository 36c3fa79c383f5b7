import Mathlib.Data.List.Infix

/-! Conditions of a query: SQL's three-valued logic and its `LIKE` patterns.
A row is selected where its condition is true; for conditions built from conjunctions,
disjunctions and comparisons, that is decided part by part.
-/

namespace Library

open List Function

/-- A truth value of SQL; `none` is unknown, as is every comparison with `NULL`. -/
abbrev Truth := Option Bool

namespace Truth

def all (conditions : List Truth) : Truth :=
  if some false ∈ conditions then some false else if none ∈ conditions then none else some true

def any (conditions : List Truth) : Truth :=
  if some true ∈ conditions then some true else if none ∈ conditions then none else some false

variable {α : Type}

/-- A comparison of a value that may be `NULL`. -/
def test (value : Option α) (condition : α → Prop) [DecidablePred condition] : Truth :=
  value.map (fun known => decide (condition known))

def equals [DecidableEq α] (value : Option α) (expected : α) : Truth :=
  test value (· = expected)

def oneOf [DecidableEq α] (value : Option α) (expected : List α) : Truth :=
  test value (· ∈ expected)

variable {conditions : List Truth} {value : Option α}

@[simp] theorem all_eq_true
    : all conditions = some true ↔ ∀ condition ∈ conditions, condition = some true := by
  unfold all
  constructor
  · intro holds condition mem
    split at holds
    · simp at holds
    next notFalse =>
      split at holds
      · simp at holds
      next notUnknown =>
        match condition, mem with
        | some true, _ => rfl
        | some false, inside => exact absurd inside notFalse
        | none, inside => exact absurd inside notUnknown
  · intro holds
    have notFalse : some false ∉ conditions := fun inside => by simpa using holds _ inside
    have notUnknown : none ∉ conditions := fun inside => by simpa using holds _ inside
    rw [if_neg notFalse, if_neg notUnknown]

@[simp] theorem any_eq_true : any conditions = some true ↔ some true ∈ conditions := by
  unfold any
  split
  next inside => simp [inside]
  next outside => split <;> simp [outside]

@[simp] theorem test_eq_true {condition : α → Prop} [DecidablePred condition]
    : test value condition = some true ↔ ∃ known, value = some known ∧ condition known := by
  simp [test]

@[simp] theorem equals_eq_true [DecidableEq α] {expected : α}
    : equals value expected = some true ↔ value = some expected := by
  simp [equals]

@[simp] theorem oneOf_eq_true [DecidableEq α] {expected : List α}
    : oneOf value expected = some true ↔ ∃ known ∈ expected, value = some known := by
  simp [oneOf, and_comm]

end Truth

/-- The characters of a pattern that do not stand for themselves. -/
structure Wildcards (α : Type) where
  /-- stands for any number of characters -/
  many : α
  /-- stands for one character -/
  one : α
  /-- the character after it stands for itself -/
  escape : α
  many_ne_one : many ≠ one
  many_ne_escape : many ≠ escape
  one_ne_escape : one ≠ escape

inductive Piece (α : Type) where
  | literal (symbol : α)
  | one
  | many
  deriving DecidableEq

section Pieces

variable {α : Type} [DecidableEq α]

def matchPieces : List (Piece α) → List α → Bool
  | [], text => text.isEmpty
  | .literal symbol :: rest, text => text.head? == some symbol && matchPieces rest text.tail
  | .one :: rest, text => !text.isEmpty && matchPieces rest text.tail
  | .many :: rest, text => text.tails.any (matchPieces rest)

variable {rest : List (Piece α)} {text needle : List α}

theorem matchPieces_many
    : matchPieces (.many :: rest) text = true
      ↔ ∃ before after, text = before ++ after ∧ matchPieces rest after = true := by
  simp only [matchPieces, any_eq_true, mem_tails]
  constructor
  · rintro ⟨after, ⟨before, same⟩, matched⟩
    exact ⟨before, after, same.symm, matched⟩
  · rintro ⟨before, after, rfl, matched⟩
    exact ⟨after, ⟨before, rfl⟩, matched⟩

theorem matchPieces_literals
    : matchPieces (needle.map .literal ++ rest) text = true
      ↔ ∃ after, text = needle ++ after ∧ matchPieces rest after = true := by
  induction needle generalizing text with
  | nil => simp
  | cons symbol others ih =>
    cases text with
    | nil => simp [matchPieces]
    | cons first later =>
      simp only [map_cons, cons_append, matchPieces, head?_cons,
        Bool.and_eq_true, ih, beq_iff_eq, Option.some.injEq,
        List.cons.injEq]
      constructor
      · rintro ⟨same, after, rest_eq, matched⟩
        exact ⟨after, ⟨same, rest_eq⟩, matched⟩
      · rintro ⟨after, ⟨same, rest_eq⟩, matched⟩
        exact ⟨same, after, rest_eq, matched⟩

/-- `%needle%` finds the needle anywhere in a text. -/
theorem matchPieces_contains
    : matchPieces (.many :: (needle.map .literal ++ [.many])) text = true
      ↔ needle <:+: text := by
  rw [matchPieces_many]
  constructor
  · rintro ⟨before, _, rfl, matched⟩
    obtain ⟨after, rfl, _⟩ := matchPieces_literals.mp matched
    exact ⟨before, after, by simp⟩
  · rintro ⟨before, after, rfl⟩
    refine ⟨before, needle ++ after, by simp, matchPieces_literals.mpr ⟨after, rfl, ?_⟩⟩
    exact matchPieces_many.mpr ⟨after, [], by simp, rfl⟩

end Pieces

namespace Wildcards

variable {α : Type} [DecidableEq α] (wildcards : Wildcards α)

/-- The symbol outside of an escape. -/
def piece (symbol : α) : Piece α :=
  if symbol = wildcards.many then .many
  else if symbol = wildcards.one then .one
  else .literal symbol

/-- The pieces of a pattern; a pattern may not end in the escape symbol. -/
def pieces : List α → Option (List (Piece α))
  | [] => some []
  | symbol :: rest =>
    if symbol = wildcards.escape then
      match rest with
      | [] => none
      | next :: later => (pieces later).map (.literal next :: ·)
    else
      (pieces rest).map (wildcards.piece symbol :: ·)

theorem pieces_plain {symbol : α} (plain : symbol ≠ wildcards.escape) (rest : List α)
    : wildcards.pieces (symbol :: rest)
      = (wildcards.pieces rest).map (wildcards.piece symbol :: ·) := by
  rw [pieces.eq_def]
  simp [plain]

theorem pieces_escape (symbol : α) (rest : List α)
    : wildcards.pieces (wildcards.escape :: symbol :: rest)
      = (wildcards.pieces rest).map (.literal symbol :: ·) := by
  rw [pieces.eq_def]
  simp

/-- `text LIKE pattern`, where a pattern that the database refuses matches nothing. -/
def like (text pattern : List α) : Bool :=
  match wildcards.pieces pattern with
  | none => false
  | some pieces => matchPieces pieces text

/-- The symbol has a meaning of its own in a pattern. -/
def Special (symbol : α) : Prop :=
  symbol = wildcards.many ∨ symbol = wildcards.one ∨ symbol = wildcards.escape

instance (symbol : α) : Decidable (wildcards.Special symbol) :=
  inferInstanceAs (Decidable (_ ∨ _))

/-- Every symbol of a text with a meaning of its own preceded by the escape symbol. -/
def escaped (text : List α) : List α :=
  text.flatMap fun symbol =>
    if wildcards.Special symbol then [wildcards.escape, symbol] else [symbol]

/-- An escaped text stands for itself in a pattern. -/
theorem pieces_escaped (text rest : List α)
    : wildcards.pieces (wildcards.escaped text ++ rest)
      = (wildcards.pieces rest).map (text.map .literal ++ ·) := by
  induction text with
  | nil => simp [escaped]
  | cons symbol others ih =>
    have tail : wildcards.escaped (symbol :: others)
        = (if wildcards.Special symbol then [wildcards.escape, symbol] else [symbol])
          ++ wildcards.escaped others := by
      simp [escaped]
    rw [tail]
    by_cases special : wildcards.Special symbol
    · rw [if_pos special, append_assoc, cons_append, singleton_append,
        pieces_escape, ih]
      simp [comp_def]
    · have plain := special
      simp only [Special, not_or] at plain
      have itself : wildcards.piece symbol = .literal symbol := by simp [piece, plain]
      rw [if_neg special, append_assoc, singleton_append,
        pieces_plain _ plain.2.2, ih, itself]
      simp [comp_def]

def containsPattern (needle : List α) : List α :=
  [wildcards.many] ++ wildcards.escaped needle ++ [wildcards.many]

theorem like_containsPattern {text needle : List α}
    : wildcards.like text (wildcards.containsPattern needle) = true ↔ needle <:+: text := by
  have first := wildcards.pieces_plain wildcards.many_ne_escape
  have itself : wildcards.piece wildcards.many = .many := if_pos rfl
  have whole : wildcards.pieces (wildcards.containsPattern needle)
      = some (.many :: (needle.map .literal ++ [.many])) := by
    rw [containsPattern, append_assoc, singleton_append, first, pieces_escaped, first,
      itself]
    simp [pieces]
  rw [like, whole]
  exact matchPieces_contains

end Wildcards

end Library
